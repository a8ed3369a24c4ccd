import Sigmascope.Library.LastWrite
import Sigmascope.Parse.AuditdRules

/-!
What the options of a rule line say one by one, and what becomes of it. The token
loop lets a later option overwrite an earlier one of its kind, and a watch overrides
the action; the last option of each kind is what the rule is made of.
-/

namespace Sigmascope

set_option autoImplicit false

open Sigmascope.Library Sigmascope.Library.PyText

/-- What one token says when it is read on its own. -/
inductive RuleOption where
  | action (effect : Effect) (scope : String)
  | syscalls (names : List String)
  | filter (predicate : Predicate)
  | watch (path : String)
  | perms (letters : String)
  | key (value : String)

def tokenName (token : Text) : Text := (partition ' ' token).1

def tokenValue (token : Text) : Text := strip (partition ' ' token).2.2

def isActionToken (token : Text) : Bool :=
  tokenName token == ['-', 'a'] || tokenName token == ['-', 'A']

def isWatchToken (token : Text) : Bool := tokenName token == ['-', 'w']

def isPermsToken (token : Text) : Bool := tokenName token == ['-', 'p']

/-- Exactly one side of the comma is an action. -/
def actionOf (value : Text) : Option (Effect × String) :=
  let (before, found, after) := partition ',' value
  if !found then none
  else
    let first := String.ofList (lower (strip before))
    let second := String.ofList (lower (strip after))
    match actions.lookup first, actions.lookup second with
    | some effect, none => some (effect, second)
    | none, some effect => some (effect, first)
    | _, _ => none

def readOption (token : Text) : Option RuleOption :=
  if isActionToken token then
    (actionOf (tokenValue token)).map fun action => .action action.1 action.2
  else if tokenName token = ['-', 'S'] then some (.syscalls (syscallNames (tokenValue token)))
  else if tokenName token = ['-', 'F'] then (parseFilter (tokenValue token)).map .filter
  else if isWatchToken token then some (.watch (String.ofList (tokenValue token)))
  else if isPermsToken token then some (.perms (String.ofList (tokenValue token)))
  else if tokenName token = ['-', 'k'] then some (.key (String.ofList (tokenValue token)))
  else none

namespace RuleOption

def action? : RuleOption → Option (Effect × String)
  | .action effect scope => some (effect, scope)
  | _ => none

def watch? : RuleOption → Option String
  | .watch path => some path
  | _ => none

def perms? : RuleOption → Option String
  | .perms letters => some letters
  | _ => none

def names : RuleOption → List String
  | .syscalls names => names
  | _ => []

def predicates : RuleOption → List Predicate
  | .filter predicate => [predicate]
  | .key value => [⟨"key", .eq, value⟩]
  | _ => []

/-- The letters that announce an option. -/
def letters : RuleOption → List Char
  | .action _ _ => ['a', 'A']
  | .syscalls _ => ['S']
  | .filter _ => ['F']
  | .watch _ => ['w']
  | .perms _ => ['p']
  | .key _ => ['k']

end RuleOption

/-- The assignment that an option makes. -/
def RuleState.apply (state : RuleState) : RuleOption → RuleState
  | .action effect scope => { state with effect := some effect, scope := scope }
  | .syscalls names => { state with syscalls := state.syscalls ∪ names.toFinset }
  | .filter predicate => { state with predicates := state.predicates ++ [predicate] }
  | .watch path => { state with watchPath := some path }
  | .perms letters => { state with watchPerms := some letters }
  | .key value => { state with predicates := state.predicates ++ [⟨"key", .eq, value⟩] }

section Token

variable (origin : Origin) (state : RuleState) {token option value : Text}

theorem read_action_some {action : Effect × String} (read : actionOf value = some action) :
    readAction origin state token option value = state.apply (.action action.1 action.2) := by
  rcases parted : partition ',' value with ⟨before, found, after⟩
  simp only [actionOf, parted] at read
  simp only [readAction, parted]
  cases found with
  | false => cases read
  | true =>
      cases front : actions.lookup (String.ofList (lower (strip before))) <;>
        cases back : actions.lookup (String.ofList (lower (strip after))) <;>
          simp only [front, back] at read ⊢ <;> cases read <;> rfl

theorem read_action_none (unread : actionOf value = none) :
    ∃ message, readAction origin state token option value =
      state.report message origin token := by
  rcases parted : partition ',' value with ⟨before, found, after⟩
  simp only [actionOf, parted] at unread
  simp only [readAction, parted]
  cases found with
  | false => exact ⟨_, rfl⟩
  | true =>
      cases front : actions.lookup (String.ofList (lower (strip before))) <;>
        cases back : actions.lookup (String.ofList (lower (strip after))) <;>
          simp only [front, back] at unread ⊢ <;> cases unread <;> exact ⟨_, rfl⟩

theorem read_token_eq :
    readToken origin state token =
      if isActionToken token then
        readAction origin state token (tokenName token) (tokenValue token)
      else
        match readOption token with
        | some said => state.apply said
        | none =>
            if tokenName token = ['-', 'F'] then
              state.report ("unrecognised -F expression " ++ pyRepr (tokenValue token)) origin token
            else
              state.report ("unrecognised audit option " ++ String.ofList (tokenName token))
                origin token := by
  rcases parted : partition ' ' token with ⟨name, found, rest⟩
  simp only [readToken, readOption, isActionToken, isWatchToken, isPermsToken, tokenName,
    tokenValue, parted, Bool.or_eq_true, beq_iff_eq]
  by_cases action : name = ['-', 'a'] ∨ name = ['-', 'A']
  · rw [if_pos action, if_pos action]
  · rw [if_neg action, if_neg action, if_neg action]
    by_cases calls : name = ['-', 'S']
    · rw [if_pos calls, if_pos calls]
      rfl
    · rw [if_neg calls, if_neg calls]
      by_cases filter : name = ['-', 'F']
      · rw [if_pos filter, if_pos filter, if_pos filter]
        cases parseFilter (strip rest) <;> rfl
      · rw [if_neg filter, if_neg filter, if_neg filter]
        by_cases watch : name = ['-', 'w']
        · rw [if_pos watch, if_pos watch]
          rfl
        · rw [if_neg watch, if_neg watch]
          by_cases perms : name = ['-', 'p']
          · rw [if_pos perms, if_pos perms]
            rfl
          · rw [if_neg perms, if_neg perms]
            by_cases key : name = ['-', 'k']
            · rw [if_pos key, if_pos key]
              rfl
            · rw [if_neg key, if_neg key]

theorem read_token_some {said : RuleOption} (read : readOption token = some said) :
    readToken origin state token = state.apply said := by
  rw [read_token_eq]
  by_cases action : isActionToken token = true
  · rw [readOption, if_pos action] at read
    obtain ⟨pair, spoken, rfl⟩ := Option.map_eq_some_iff.mp read
    rw [if_pos action, read_action_some origin state spoken]
  · rw [if_neg action, read]

/-- A token that says nothing is reported, and nothing else changes. -/
theorem read_token_none (unread : readOption token = none) :
    ∃ message, readToken origin state token = state.report message origin token := by
  rw [read_token_eq]
  by_cases action : isActionToken token = true
  · rw [readOption, if_pos action, Option.map_eq_none_iff] at unread
    rw [if_pos action]
    exact read_action_none origin state unread
  · rw [if_neg action, unread]
    by_cases filter : tokenName token = ['-', 'F']
    · exact ⟨_, if_pos filter⟩
    · exact ⟨_, if_neg filter⟩

theorem read_option_letter {said : RuleOption} (read : readOption token = some said) :
    ∃ letter ∈ said.letters, tokenName token = ['-', letter] := by
  unfold readOption at read
  split at read
  · rename_i action
    obtain ⟨pair, spoken, rfl⟩ := Option.map_eq_some_iff.mp read
    rw [isActionToken, Bool.or_eq_true, beq_iff_eq, beq_iff_eq] at action
    rcases action with append | prepend
    · exact ⟨'a', List.mem_cons_self, append⟩
    · exact ⟨'A', by simp [RuleOption.letters], prepend⟩
  split at read
  · rename_i calls
    cases read
    exact ⟨'S', List.mem_cons_self, calls⟩
  split at read
  · rename_i filter
    obtain ⟨predicate, parsed, rfl⟩ := Option.map_eq_some_iff.mp read
    exact ⟨'F', List.mem_cons_self, filter⟩
  split at read
  · rename_i watch
    cases read
    exact ⟨'w', List.mem_cons_self, beq_iff_eq.mp watch⟩
  split at read
  · rename_i perms
    cases read
    exact ⟨'p', List.mem_cons_self, beq_iff_eq.mp perms⟩
  split at read
  · rename_i key
    cases read
    exact ⟨'k', List.mem_cons_self, key⟩
  · cases read

/-- What a token says is of the kind that its letter announces. -/
theorem read_option_kind {said : RuleOption} (read : readOption token = some said) :
    said.action?.isSome = isActionToken token ∧ said.watch?.isSome = isWatchToken token ∧
      said.perms?.isSome = isPermsToken token := by
  obtain ⟨letter, member, named⟩ := read_option_letter read
  rw [isActionToken, isWatchToken, isPermsToken, named]
  cases said <;> simp only [RuleOption.letters, List.mem_cons, List.not_mem_nil, or_false] at member
  case action =>
    rcases member with rfl | rfl <;> exact ⟨rfl, rfl, rfl⟩
  all_goals
    subst member
    exact ⟨rfl, rfl, rfl⟩

end Token

section Run

variable (origin : Origin) (state : RuleState) {tokens : List Text}

/-- What the tokens of a line say, in order. -/
def saidBy (tokens : List Text) : List RuleOption := tokens.filterMap readOption

theorem read_run_said (known : ∀ token ∈ tokens, (readOption token).isSome = true) :
    tokens.foldl (readToken origin) state = (saidBy tokens).foldl RuleState.apply state := by
  induction tokens generalizing state with
  | nil => rfl
  | cons token tokens induction =>
      obtain ⟨said, read⟩ := Option.isSome_iff_exists.mp (known token List.mem_cons_self)
      have rest := induction (state.apply said) fun other member =>
        known other (List.mem_cons_of_mem _ member)
      rw [List.foldl_cons, read_token_some origin state read, rest, saidBy, saidBy,
        List.filterMap_cons_some read, List.foldl_cons]

theorem apply_diagnostics (said : RuleOption) :
    (state.apply said).diagnostics = state.diagnostics := by
  cases said <;> rfl

theorem report_diagnostics (message : String) (raw : Text) :
    (state.report message origin raw).diagnostics ≠ [] :=
  List.append_ne_nil_of_right_ne_nil _ (List.cons_ne_nil _ _)

theorem read_token_diagnostics (token : Text) (reported : state.diagnostics ≠ []) :
    (readToken origin state token).diagnostics ≠ [] := by
  cases read : readOption token with
  | some said => rwa [read_token_some origin state read, apply_diagnostics]
  | none =>
      obtain ⟨message, outcome⟩ := read_token_none origin state read
      rw [outcome]
      exact report_diagnostics origin state message token

theorem read_run_diagnostics (tokens : List Text) (reported : state.diagnostics ≠ []) :
    (tokens.foldl (readToken origin) state).diagnostics ≠ [] := by
  induction tokens generalizing state with
  | nil => exact reported
  | cons token tokens induction =>
      exact induction _ (read_token_diagnostics origin state token reported)

/-- One token that says nothing is enough for a diagnostic. -/
theorem read_run_unread {token : Text} (member : token ∈ tokens)
    (unread : readOption token = none) :
    (tokens.foldl (readToken origin) state).diagnostics ≠ [] := by
  obtain ⟨front, back, rfl⟩ := List.append_of_mem member
  obtain ⟨message, outcome⟩ :=
    read_token_none origin (front.foldl (readToken origin) state) unread
  rw [List.foldl_append, List.foldl_cons, outcome]
  exact read_run_diagnostics origin _ back (report_diagnostics origin _ message token)

end Run

section Registers

variable (state : RuleState) (said : List RuleOption)

theorem apply_run_diagnostics :
    (said.foldl RuleState.apply state).diagnostics = state.diagnostics := by
  induction said generalizing state with
  | nil => rfl
  | cons option said induction => rw [List.foldl_cons, induction, apply_diagnostics]

theorem apply_run_effect :
    (said.foldl RuleState.apply state).effect =
      lastWrite (fun option => option.action?.map Prod.fst) said state.effect := by
  apply register_run RuleState.effect
  intro before option
  cases option <;> rfl

theorem apply_run_scope :
    some (said.foldl RuleState.apply state).scope =
      lastWrite (fun option => option.action?.map Prod.snd) said (some state.scope) := by
  apply register_run fun current : RuleState => some current.scope
  intro before option
  cases option <;> rfl

theorem apply_run_path :
    (said.foldl RuleState.apply state).watchPath =
      lastWrite RuleOption.watch? said state.watchPath := by
  apply register_run RuleState.watchPath
  intro before option
  cases option <;> rfl

theorem apply_run_perms :
    (said.foldl RuleState.apply state).watchPerms =
      lastWrite RuleOption.perms? said state.watchPerms := by
  apply register_run RuleState.watchPerms
  intro before option
  cases option <;> rfl

theorem apply_run_predicates :
    (said.foldl RuleState.apply state).predicates =
      state.predicates ++ said.flatMap RuleOption.predicates := by
  apply register_gathers RuleState.predicates
  intro before option
  cases option <;> simp [RuleState.apply, RuleOption.predicates]

/-- When one action was said, each part of it is what the last write leaves. -/
theorem said_action_sole {said : List RuleOption}
    (once : (said.filterMap RuleOption.action?).length ≤ 1) {pair : Effect × String}
    (spoken : pair ∈ said.filterMap RuleOption.action?) {Value : Type}
    (part : Effect × String → Value) (held : Option Value) :
    lastWrite (fun option : RuleOption => option.action?.map part) said held =
      some (part pair) := by
  have parts : said.filterMap (fun option => option.action?.map part) =
      (said.filterMap RuleOption.action?).map part := by
    rw [List.map_filterMap]
  apply last_write_sole
  · rwa [parts, List.length_map]
  · rw [parts]
    exact List.mem_map_of_mem spoken

theorem apply_run_syscalls (name : String) :
    name ∈ (said.foldl RuleState.apply state).syscalls ↔
      name ∈ state.syscalls ∨ ∃ option ∈ said, name ∈ option.names := by
  induction said generalizing state with
  | nil => simp
  | cons option said induction =>
      have step : name ∈ (state.apply option).syscalls ↔
          name ∈ state.syscalls ∨ name ∈ option.names := by
        cases option <;> simp [RuleState.apply, RuleOption.names]
      rw [List.foldl_cons, induction, step, or_assoc]
      simp only [List.mem_cons, exists_eq_or_imp]

end Registers

end Sigmascope
