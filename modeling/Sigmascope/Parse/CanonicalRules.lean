import Sigmascope.Parse.CanonicalListing

/-!
Abstract rules and their canonical lines: a syscall rule with its filters, its calls
and its key in this order, and a watch. A text of such lines is read back as the
rules that it was written from.
-/

namespace Sigmascope

set_option autoImplicit false

open Sigmascope.Library Sigmascope.Library.PyText

inductive CanonicalRule where
  | syscallRule (effect : Effect) (scope : String) (listFirst : Bool)
      (predicates : List Predicate) (syscalls : List String) (key : Option String)
  | watch (path perms : String) (key : Option String)

namespace CanonicalRule

def keyPredicate (value : String) : Predicate := ⟨"key", .eq, value⟩

def keyOption (value : String) : LineOption := ⟨'k', value.toList⟩

def syscallOption (syscalls : List String) : Option LineOption :=
  if syscalls = [] then none else some ⟨'S', [','].intercalate (syscalls.map String.toList)⟩

/-- The options of the canonical line. -/
def options : CanonicalRule → List LineOption
  | .syscallRule effect scope listFirst predicates syscalls key =>
      ⟨'a', actionText effect scope listFirst⟩ ::
        (predicates.map (fun predicate => ⟨'F', filterText predicate⟩) ++
          (syscallOption syscalls).toList ++ (key.map keyOption).toList)
  | .watch path perms key =>
      ⟨'w', path.toList⟩ :: ⟨'p', perms.toList⟩ :: (key.map keyOption).toList

def line (canonical : CanonicalRule) : Text := lineText canonical.options

def effect : CanonicalRule → Effect
  | .syscallRule effect _ _ _ _ _ => effect
  | .watch _ _ _ => .included

def selector : CanonicalRule → SyscallSelector
  | .syscallRule _ scope _ _ syscalls _ => ⟨syscalls.toFinset, scope⟩
  | .watch _ _ _ => ⟨∅, "exit"⟩

def predicates : CanonicalRule → List Predicate
  | .syscallRule _ _ _ predicates _ key => predicates ++ (key.map keyPredicate).toList
  | .watch path perms key =>
      ⟨"path", .eq, path⟩ :: ⟨"perm", .eq, perms⟩ :: (key.map keyPredicate).toList

/-- The rule itself, at a line of a text. -/
def rule (canonical : CanonicalRule) (sourceId : String) (lineNumber : Nat) : Rule where
  effect := canonical.effect
  selector := .syscall canonical.selector
  predicates := canonical.predicates
  order := lineNumber
  origin := lineOrigin sourceId lineNumber
  raw := String.ofList canonical.line

/-- A filter that is spelled without ambiguity: the value does not lengthen the comparison,
holds no option, and is none of the two spellings of an unset audit user. -/
structure PlainFilter (predicate : Predicate) : Prop where
  clean : CleanFilter predicate
  free : FreeOfOptions predicate.value.toList
  settled : ¬(predicate.field = "auid" ∧
    (predicate.value = "-1" ∨ predicate.value = "4294967295"))

def Plain : CanonicalRule → Prop
  | .syscallRule _ scope _ predicates syscalls key =>
      CleanScope scope ∧ (∀ predicate ∈ predicates, PlainFilter predicate) ∧
        (∀ name ∈ syscalls, CleanWord name ∧ isOptionWord name.toList = false) ∧
        ∀ value ∈ key, PlainValue value
  | .watch path perms key => PlainValue path ∧ PlainValue perms ∧ ∀ value ∈ key, PlainValue value

/-- The same rule as a listed rule. -/
def listed : CanonicalRule → ListedRule
  | .syscallRule effect scope listFirst predicates syscalls key =>
      .syscallRule effect scope listFirst
        (predicates.map RuleItem.filter ++
          (if syscalls = [] then [] else [.syscalls syscalls]) ++ (key.map RuleItem.key).toList)
  | .watch path perms key => .watch path perms key

theorem listed_options (canonical : CanonicalRule) :
    canonical.listed.options = canonical.options := by
  cases canonical with
  | syscallRule effect scope listFirst predicates syscalls key =>
      have filters : (predicates.map RuleItem.filter).map RuleItem.option =
          predicates.map fun predicate => ⟨'F', filterText predicate⟩ := by
        rw [List.map_map]
        rfl
      simp only [listed, ListedRule.options, options, List.map_append, filters]
      cases key with
      | none => by_cases bare : syscalls = [] <;> simp [syscallOption, bare, RuleItem.option]
      | some value =>
          by_cases bare : syscalls = [] <;>
            simp [syscallOption, bare, RuleItem.option, keyOption]
  | watch path perms key => cases key <;> rfl

theorem listed_line (canonical : CanonicalRule) : canonical.listed.line = canonical.line := by
  rw [ListedRule.line, listed_options, line]

theorem filter_predicates {predicates : List Predicate}
    (plain : ∀ predicate ∈ predicates, PlainFilter predicate) :
    (predicates.map RuleItem.filter).flatMap RuleItem.predicates = predicates := by
  induction predicates with
  | nil => rfl
  | cons predicate predicates induction =>
      have rest := induction fun other member => plain other (List.mem_cons_of_mem _ member)
      have settled := (plain predicate List.mem_cons_self).settled
      rw [List.map_cons, List.flatMap_cons, rest, RuleItem.predicates, normaliseValue,
        if_neg settled]
      rfl

theorem filter_names (predicates : List Predicate) :
    (predicates.map RuleItem.filter).flatMap RuleItem.names = [] := by
  rw [List.flatMap_map]
  exact List.flatMap_eq_nil_iff.mpr fun _ _ => rfl

theorem listed_effect (canonical : CanonicalRule) :
    canonical.listed.effect = canonical.effect := by
  cases canonical <;> rfl

theorem listed_selector (canonical : CanonicalRule) :
    (⟨canonical.listed.names.toFinset, canonical.listed.scope⟩ : SyscallSelector) =
      canonical.selector := by
  cases canonical with
  | syscallRule effect scope listFirst predicates syscalls key =>
      have names : (key.map RuleItem.key).toList.flatMap RuleItem.names = [] := by
        cases key <;> rfl
      simp only [listed, ListedRule.names, ListedRule.scope, selector, List.flatMap_append,
        filter_names, names]
      by_cases bare : syscalls = []
      · simp [bare]
      · simp [bare, RuleItem.names]
  | watch path perms key => rfl

theorem listed_predicates {canonical : CanonicalRule} (plain : canonical.Plain) :
    canonical.listed.predicates = canonical.predicates := by
  cases canonical with
  | syscallRule effect scope listFirst predicates syscalls key =>
      have keys : (key.map RuleItem.key).toList.flatMap RuleItem.predicates =
          (key.map keyPredicate).toList := by
        cases key <;> rfl
      simp only [listed, ListedRule.predicates, CanonicalRule.predicates, List.flatMap_append,
        filter_predicates plain.2.1, keys]
      by_cases bare : syscalls = []
      · simp [bare]
      · simp [bare, RuleItem.predicates]
  | watch path perms key => cases key <;> rfl

theorem listed_rule {canonical : CanonicalRule} (plain : canonical.Plain) (sourceId : String)
    (lineNumber : Nat) :
    canonical.listed.rule lineNumber (lineOrigin sourceId lineNumber) =
      canonical.rule sourceId lineNumber := by
  rw [ListedRule.rule, rule, listed_line, listed_effect, listed_selector, listed_predicates plain]

theorem listed_plain {canonical : CanonicalRule} (plain : canonical.Plain) :
    canonical.listed.Plain := by
  cases canonical with
  | syscallRule effect scope listFirst predicates syscalls key =>
      obtain ⟨scopeClean, filters, names, keyPlain⟩ := plain
      refine ⟨scopeClean, ?_⟩
      intro item member
      rcases List.mem_append.mp member with front | last
      · rcases List.mem_append.mp front with filter | middle
        · obtain ⟨predicate, inside, rfl⟩ := List.mem_map.mp filter
          exact ⟨(filters predicate inside).clean, (filters predicate inside).free⟩
        · by_cases bare : syscalls = []
          · rw [if_pos bare] at middle
            cases middle
          · rw [if_neg bare, List.mem_singleton] at middle
            subst middle
            exact ⟨bare, names⟩
      · obtain ⟨value, held, rfl⟩ := Option.map_eq_some_iff.mp (Option.mem_toList.mp last)
        exact keyPlain value held
  | watch path perms key => exact plain

end CanonicalRule

/-- The text of the canonical lines. -/
def canonicalText (rules : List CanonicalRule) : String :=
  String.ofList (['\n'].intercalate (rules.map CanonicalRule.line))

/-- A text of canonical lines is parsed back in full: every rule, in order, numbered from one,
with its line as origin and as raw text, and nothing is reported. -/
theorem parse_canonical_text (sourceId : String) (rules : List CanonicalRule)
    (plain : ∀ canonical ∈ rules, canonical.Plain) :
    parseAuditdRules sourceId (canonicalText rules) =
      { determinacy := .effective
        rules := (rules.zipIdx 1).map fun numbered => numbered.1.rule sourceId numbered.2
        diagnostics := [] } := by
  have lines : rules.map CanonicalRule.line =
      (rules.map CanonicalRule.listed).map ListedRule.line := by
    rw [List.map_map]
    exact List.map_congr_left fun canonical _ => (CanonicalRule.listed_line canonical).symm
  have listedPlain : ∀ listed ∈ rules.map CanonicalRule.listed, listed.Plain := by
    intro listed member
    obtain ⟨canonical, inside, rfl⟩ := List.mem_map.mp member
    exact CanonicalRule.listed_plain (plain canonical inside)
  have split : splitlines (canonicalText rules).toList =
      (rules.map CanonicalRule.listed).map ListedRule.line := by
    rw [canonicalText, String.toList_ofList, lines]
    apply splitlines_joined
    · intro line member
      obtain ⟨listed, inside, rfl⟩ := List.mem_map.mp member
      exact line_text_whole (listed_options_clean (listedPlain listed inside))
    · intro line member
      obtain ⟨listed, inside, rfl⟩ := List.mem_map.mp member
      exact List.ne_nil_of_mem (listed_line_dash listed)
  have read := read_listed_lines sourceId (rules.map CanonicalRule.listed) listedPlain []
  simp only [List.length_nil, Nat.zero_add, List.nil_append] at read
  have recovered : ((rules.map CanonicalRule.listed).zipIdx 1).map (fun numbered =>
        numbered.1.rule numbered.2 (lineOrigin sourceId numbered.2)) =
      (rules.zipIdx 1).map fun numbered => numbered.1.rule sourceId numbered.2 := by
    rw [List.zipIdx_map, List.map_map]
    apply List.map_congr_left
    intro numbered member
    exact CanonicalRule.listed_rule (plain _ (List.fst_mem_of_mem_zipIdx member)) _ _
  rw [parseAuditdRules, split, read, recovered]
  rfl

/-- A rule with every part, and a watch on a path with a blank and no permissions. -/
def sampleRules : List CanonicalRule :=
  [.syscallRule .excluded "exit" true [⟨"auid", .ge, "1000"⟩, ⟨"exe", .ne, "/opt/my app"⟩]
      ["execve", "59"] (some "exec"),
    .watch "/etc/my file" "" none]

theorem sample_rules_plain : ∀ canonical ∈ sampleRules, canonical.Plain := by
  intro canonical member
  simp only [sampleRules, List.mem_cons, List.not_mem_nil, or_false] at member
  rcases member with rfl | rfl
  · have scope : CleanScope "exit" :=
      ⟨⟨by decide, none_of_all (by decide), by decide⟩, by decide, by decide⟩
    refine ⟨scope, ?_, ?_, ?_⟩
    · intro predicate inside
      simp only [List.mem_cons, List.not_mem_nil, or_false] at inside
      rcases inside with rfl | rfl
      · exact ⟨⟨by decide, by simp [isFieldPart, isAsciiLetter], by decide, by decide, by decide,
          none_of_all (by decide), by decide⟩, by decide, by decide⟩
      · exact ⟨⟨by decide, by simp [isFieldPart, isAsciiLetter], by decide, by decide, by decide,
          none_of_all (by decide), by decide⟩, by decide, by decide⟩
    · intro name named
      simp only [List.mem_cons, List.not_mem_nil, or_false] at named
      rcases named with rfl | rfl
      · exact ⟨⟨by decide, none_of_all (by decide), by decide⟩, by decide⟩
      · exact ⟨⟨by decide, none_of_all (by decide), by decide⟩, by decide⟩
    · intro value held
      cases held
      exact ⟨by decide, none_of_all (by decide), by decide⟩
  · refine ⟨⟨by decide, none_of_all (by decide), by decide⟩,
      ⟨by decide, none_of_all (by decide), by decide⟩, ?_⟩
    intro value held
    cases held

theorem parse_canonical_text_sample :
    parseAuditdRules "auditctl -l" (canonicalText sampleRules) =
      { determinacy := .effective
        rules := (sampleRules.zipIdx 1).map fun numbered =>
          numbered.1.rule "auditctl -l" numbered.2
        diagnostics := [] } :=
  parse_canonical_text "auditctl -l" sampleRules sample_rules_plain

end Sigmascope
