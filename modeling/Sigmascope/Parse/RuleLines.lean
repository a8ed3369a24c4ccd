import Sigmascope.Parse.AcceptedLines

/-!
The line loop of the auditd parser. What a line yields depends on the line alone, apart
from the order and the origin that label it, so the loop is a concatenation over lines.
-/

namespace Sigmascope

set_option autoImplicit false

open Sigmascope.Library Sigmascope.Library.PyText

/-- The rule under another order and another origin. -/
def Rule.labelled (order : Nat) (origin : Origin) (rule : Rule) : Rule :=
  { rule with order := order, origin := origin }

/-- The diagnostic about another origin. -/
def Diagnostic.movedTo (origin : Origin) (diagnostic : Diagnostic) : Diagnostic :=
  { diagnostic with origin := origin }

/-- The same state with its diagnostics about another origin. -/
def RuleState.movedTo (origin : Origin) (state : RuleState) : RuleState :=
  { state with diagnostics := state.diagnostics.map (Diagnostic.movedTo origin) }

section Labels

variable (origin other : Origin) (state : RuleState)

theorem report_moved (message : String) (raw : Text) :
    (state.report message origin raw).movedTo other =
      (state.movedTo other).report message other raw := by
  simp [RuleState.report, RuleState.movedTo, Diagnostic.movedTo]

theorem read_action_moved (token option value : Text) :
    (readAction origin state token option value).movedTo other =
      readAction other (state.movedTo other) token option value := by
  rcases parted : partition ',' value with ⟨before, found, after⟩
  simp only [readAction, parted]
  cases found with
  | false => exact report_moved origin other state _ token
  | true =>
      cases actions.lookup (String.ofList (lower (strip before))) <;>
        cases actions.lookup (String.ofList (lower (strip after)))
      case none.none => exact report_moved origin other state _ token
      case none.some => rfl
      case some.none => rfl
      case some.some => exact report_moved origin other state _ token

theorem apply_moved (said : RuleOption) :
    (state.apply said).movedTo other = (state.movedTo other).apply said := by
  cases said <;> rfl

theorem read_token_moved (token : Text) :
    (readToken origin state token).movedTo other =
      readToken other (state.movedTo other) token := by
  rw [read_token_eq, read_token_eq]
  by_cases action : isActionToken token = true
  · rw [if_pos action, if_pos action]
    exact read_action_moved origin other state token _ _
  · rw [if_neg action, if_neg action]
    cases readOption token with
    | some said => exact apply_moved other state said
    | none =>
        by_cases filter : tokenName token = ['-', 'F']
        · simp only [if_pos filter]
          exact report_moved origin other state _ token
        · simp only [if_neg filter]
          exact report_moved origin other state _ token

theorem read_run_moved (tokens : List Text) :
    (tokens.foldl (readToken origin) state).movedTo other =
      tokens.foldl (readToken other) (state.movedTo other) := by
  induction tokens generalizing state with
  | nil => rfl
  | cons token tokens induction =>
      rw [List.foldl_cons, List.foldl_cons, induction, read_token_moved]

theorem close_watch_moved (rawLine : Text) :
    (closeWatch origin rawLine state).movedTo other =
      closeWatch other rawLine (state.movedTo other) := by
  have path : (state.movedTo other).watchPath = state.watchPath := rfl
  have perms : (state.movedTo other).watchPerms = state.watchPerms := rfl
  simp only [closeWatch, path, perms]
  cases state.watchPath with
  | some path => cases state.watchPerms <;> rfl
  | none =>
      cases state.watchPerms with
      | some perms => exact report_moved origin other state _ rawLine
      | none => rfl

theorem close_rule_moved (rawLine : Text) (order otherOrder : Nat) :
    closeRule other rawLine otherOrder (state.movedTo other) =
      ((closeRule origin rawLine order state).1.map (Rule.labelled otherOrder other),
        (closeRule origin rawLine order state).2.map (Diagnostic.movedTo other)) := by
  have effect : (state.movedTo other).effect = state.effect := rfl
  simp only [closeRule, effect]
  cases state.effect with
  | none => exact Prod.ext rfl (congrArg RuleState.diagnostics
      (report_moved origin other state _ rawLine)).symm
  | some effect => rfl

/-- Order and origin only label what a line yields. -/
theorem parse_rule_labelled (rawLine : Text) (tokens : List Text) (order otherOrder : Nat) :
    parseRule rawLine tokens otherOrder other =
      ((parseRule rawLine tokens order origin).1.map (Rule.labelled otherOrder other),
        (parseRule rawLine tokens order origin).2.map (Diagnostic.movedTo other)) := by
  rw [parseRule, parseRule, ← close_rule_moved, close_watch_moved, read_run_moved]
  rfl

end Labels

theorem close_rule_raw {origin : Origin} {rawLine : Text} {order : Nat} {state : RuleState}
    {rule : Rule} (member : rule ∈ (closeRule origin rawLine order state).1) :
    rule.raw = String.ofList rawLine := by
  unfold closeRule at member
  cases effect : state.effect with
  | none =>
      rw [effect] at member
      cases member
  | some effect' =>
      rw [effect] at member
      cases member
      rfl

section Loop

variable (sourceId : String)

/-- What one line yields. -/
def lineYield (order lineNumber : Nat) (line : Text) : List Rule × List Diagnostic :=
  if strip line = [] then ([], [])
  else
    let (rule, issues) := parseRule line (lineTokens line) order (lineOrigin sourceId lineNumber)
    (rule.toList, issues)

/-- What the lines yield from the given order and line number on. -/
def readLines (order lineNumber : Nat) : List Text → List Rule × List Diagnostic
  | [] => ([], [])
  | line :: lines =>
      let own := lineYield sourceId order lineNumber line
      let rest := readLines (order + own.1.length) (lineNumber + 1) lines
      (own.1 ++ rest.1, own.2 ++ rest.2)

theorem read_rule_line_yield (state : List Rule × List Diagnostic) (line : Text)
    (lineNumber : Nat) :
    readRuleLine sourceId state (line, lineNumber) =
      (state.1 ++ (lineYield sourceId (state.1.length + 1) lineNumber line).1,
        state.2 ++ (lineYield sourceId (state.1.length + 1) lineNumber line).2) := by
  unfold readRuleLine lineYield
  by_cases blank : strip line = []
  · simp [blank]
  · simp [blank]

theorem read_rule_lines_yield (lines : List Text) (state : List Rule × List Diagnostic)
    (lineNumber : Nat) :
    (lines.zipIdx lineNumber).foldl (readRuleLine sourceId) state =
      (state.1 ++ (readLines sourceId (state.1.length + 1) lineNumber lines).1,
        state.2 ++ (readLines sourceId (state.1.length + 1) lineNumber lines).2) := by
  induction lines generalizing state lineNumber with
  | nil => simp [readLines]
  | cons line lines induction =>
      rw [List.zipIdx_cons, List.foldl_cons, induction, read_rule_line_yield]
      simp only [readLines, List.length_append, List.append_assoc]
      rw [Nat.add_right_comm]

theorem parse_auditd_rules_eq (data : String) :
    parseAuditdRules sourceId data =
      { determinacy := determinacyOf (readLines sourceId 1 1 (splitlines data.toList)).2
        rules := (readLines sourceId 1 1 (splitlines data.toList)).1
        diagnostics := (readLines sourceId 1 1 (splitlines data.toList)).2 } := by
  rw [parseAuditdRules, read_rule_lines_yield]
  rfl

variable {sourceId} {order lineNumber : Nat}

theorem line_yield_blank {line : Text} (blank : strip line = []) :
    lineYield sourceId order lineNumber line = ([], []) :=
  if_pos blank

theorem line_yield_filled {line : Text} (filled : strip line ≠ []) :
    lineYield sourceId order lineNumber line =
      ((parseRule line (lineTokens line) order (lineOrigin sourceId lineNumber)).1.toList,
        (parseRule line (lineTokens line) order (lineOrigin sourceId lineNumber)).2) :=
  if_neg filled

variable (sourceId order lineNumber) in
theorem line_yield_labelled (otherOrder otherNumber : Nat) (line : Text) :
    lineYield sourceId otherOrder otherNumber line =
      ((lineYield sourceId order lineNumber line).1.map
          (Rule.labelled otherOrder (lineOrigin sourceId otherNumber)),
        (lineYield sourceId order lineNumber line).2.map
          (Diagnostic.movedTo (lineOrigin sourceId otherNumber))) := by
  by_cases blank : strip line = []
  · rw [line_yield_blank blank, line_yield_blank blank]
    rfl
  · rw [line_yield_filled blank, line_yield_filled blank,
      parse_rule_labelled (lineOrigin sourceId lineNumber) _ _ _ order]
    exact Prod.ext Option.toList_map rfl

theorem line_yield_rule {line : Text} {rule : Rule}
    (member : rule ∈ (lineYield sourceId order lineNumber line).1) :
    rule.order = order ∧ rule.origin = lineOrigin sourceId lineNumber ∧
      rule.raw = String.ofList line ∧ strip line ≠ [] := by
  have filled : strip line ≠ [] := by
    intro blank
    rw [line_yield_blank blank] at member
    cases member
  have labels := member
  rw [line_yield_labelled sourceId order lineNumber] at labels
  obtain ⟨original, _, rfl⟩ := List.mem_map.mp labels
  rw [line_yield_filled filled, Option.mem_toList] at member
  exact ⟨rfl, rfl, close_rule_raw member, filled⟩

theorem line_yield_diagnostic {line : Text} {diagnostic : Diagnostic}
    (member : diagnostic ∈ (lineYield sourceId order lineNumber line).2) :
    diagnostic.origin = lineOrigin sourceId lineNumber := by
  rw [line_yield_labelled sourceId order lineNumber] at member
  obtain ⟨original, _, rfl⟩ := List.mem_map.mp member
  rfl

variable (sourceId order lineNumber)

/-- A line with something on it yields a rule or a diagnostic. -/
theorem line_yield_settled {line : Text} (filled : strip line ≠ []) :
    (∃ rule, (lineYield sourceId order lineNumber line).1 = [rule]) ∨
      (lineYield sourceId order lineNumber line).2 ≠ [] := by
  have settled :
      (∃ rule, parseRule line (lineTokens line) order (lineOrigin sourceId lineNumber) =
          (some rule, [])) ∨
        (parseRule line (lineTokens line) order (lineOrigin sourceId lineNumber)).2 ≠ [] :=
    parse_rule_settled
  rw [line_yield_filled filled]
  rcases settled with accepted | reported
  · obtain ⟨rule, accepted⟩ := accepted
    rw [accepted]
    exact Or.inl ⟨rule, rfl⟩
  · exact Or.inr reported

/-- A line yields no rule, or one that carries the labels of the line. -/
theorem line_yield_cases (line : Text) :
    (lineYield sourceId order lineNumber line).1 = [] ∨
      ∃ rule, (lineYield sourceId order lineNumber line).1 = [rule] ∧ rule.order = order ∧
        rule.origin = lineOrigin sourceId lineNumber ∧ rule.raw = String.ofList line ∧
          strip line ≠ [] := by
  by_cases blank : strip line = []
  · left
    rw [line_yield_blank blank]
  · cases parsed : (parseRule line (lineTokens line) order (lineOrigin sourceId lineNumber)).1 with
    | none =>
        left
        rw [line_yield_filled blank, parsed]
        rfl
    | some rule =>
        right
        have single : (lineYield sourceId order lineNumber line).1 = [rule] := by
          rw [line_yield_filled blank, parsed]
          rfl
        exact ⟨rule, single, line_yield_rule (single ▸ List.mem_cons_self)⟩

theorem read_lines_append (first second : List Text) :
    readLines sourceId order lineNumber (first ++ second) =
      ((readLines sourceId order lineNumber first).1 ++
          (readLines sourceId (order + (readLines sourceId order lineNumber first).1.length)
            (lineNumber + first.length) second).1,
        (readLines sourceId order lineNumber first).2 ++
          (readLines sourceId (order + (readLines sourceId order lineNumber first).1.length)
            (lineNumber + first.length) second).2) := by
  induction first generalizing order lineNumber with
  | nil => rfl
  | cons line first induction =>
      simp only [List.cons_append, readLines, induction, List.append_assoc, List.length_append,
        List.length_cons]
      rw [Nat.add_assoc order, Nat.add_assoc lineNumber, Nat.add_comm 1]

/-- A rule of a later part of the text, against the same rule when the part stands alone. -/
def ShiftedRule (sourceId : String) (orders lines : Nat) (before after : Rule) : Prop :=
  ∃ number, before.origin = lineOrigin sourceId number ∧
    after = before.labelled (before.order + orders) (lineOrigin sourceId (number + lines))

/-- A diagnostic of a later part of the text, likewise. -/
def ShiftedDiagnostic (sourceId : String) (lines : Nat) (before after : Diagnostic) : Prop :=
  ∃ number, before.origin = lineOrigin sourceId number ∧
    after = before.movedTo (lineOrigin sourceId (number + lines))

theorem line_yield_shifted (orders numbers : Nat) (line : Text) :
    List.Forall₂ (ShiftedRule sourceId orders numbers)
        (lineYield sourceId order lineNumber line).1
        (lineYield sourceId (order + orders) (lineNumber + numbers) line).1 ∧
      List.Forall₂ (ShiftedDiagnostic sourceId numbers)
        (lineYield sourceId order lineNumber line).2
        (lineYield sourceId (order + orders) (lineNumber + numbers) line).2 := by
  rw [line_yield_labelled sourceId order lineNumber (order + orders)]
  constructor
  · rw [List.forall₂_map_right_iff, List.forall₂_same]
    intro rule member
    obtain ⟨own, origin, _⟩ := line_yield_rule member
    exact ⟨lineNumber, origin, by rw [own]⟩
  · rw [List.forall₂_map_right_iff, List.forall₂_same]
    intro diagnostic member
    exact ⟨lineNumber, line_yield_diagnostic member, rfl⟩

theorem read_lines_shifted (orders numbers : Nat) (lines : List Text) :
    List.Forall₂ (ShiftedRule sourceId orders numbers)
        (readLines sourceId order lineNumber lines).1
        (readLines sourceId (order + orders) (lineNumber + numbers) lines).1 ∧
      List.Forall₂ (ShiftedDiagnostic sourceId numbers)
        (readLines sourceId order lineNumber lines).2
        (readLines sourceId (order + orders) (lineNumber + numbers) lines).2 := by
  induction lines generalizing order lineNumber with
  | nil => exact ⟨.nil, .nil⟩
  | cons line lines induction =>
      obtain ⟨ownRules, ownDiagnostics⟩ :=
        line_yield_shifted sourceId order lineNumber orders numbers line
      have rest := induction (order + (lineYield sourceId order lineNumber line).1.length)
        (lineNumber + 1)
      simp only [readLines, ← ownRules.length_eq]
      rw [Nat.add_right_comm order, Nat.add_right_comm lineNumber]
      exact ⟨List.rel_append ownRules rest.1, List.rel_append ownDiagnostics rest.2⟩

theorem read_lines_orders (lines : List Text) :
    (readLines sourceId order lineNumber lines).1.map Rule.order =
      List.range' order (readLines sourceId order lineNumber lines).1.length := by
  induction lines generalizing order lineNumber with
  | nil => rfl
  | cons line lines induction =>
      have own : (lineYield sourceId order lineNumber line).1.map Rule.order =
          List.range' order (lineYield sourceId order lineNumber line).1.length := by
        rcases line_yield_cases sourceId order lineNumber line with none | some
        · rw [none]
          rfl
        · obtain ⟨rule, single, numbered, _⟩ := some
          rw [single, List.map_singleton, numbered]
          rfl
      simp only [readLines, List.map_append, own, induction, List.length_append]
      rw [List.range'_append_1]

/-- The lines that are not blank, with their numbers. -/
def filledLines (lineNumber : Nat) (lines : List Text) : List (Text × Nat) :=
  (lines.zipIdx lineNumber).filter fun numbered => decide (strip numbered.1 ≠ [])

/-- The label that a rule has from its line. -/
def sourceOf (sourceId : String) (numbered : Text × Nat) : String × Origin :=
  (String.ofList numbered.1, lineOrigin sourceId numbered.2)

/-- Each rule comes from a line of its own, in the order of the lines. -/
theorem read_lines_sources (lines : List Text) :
    ∃ accepted : List (Text × Nat), accepted.Sublist (filledLines lineNumber lines) ∧
      (readLines sourceId order lineNumber lines).1.map (fun rule => (rule.raw, rule.origin)) =
        accepted.map (sourceOf sourceId) := by
  induction lines generalizing order lineNumber with
  | nil => exact ⟨[], List.Sublist.refl _, rfl⟩
  | cons line lines induction =>
      obtain ⟨accepted, inOrder, sources⟩ := induction
        (order + (lineYield sourceId order lineNumber line).1.length) (lineNumber + 1)
      simp only [readLines, List.map_append, sources]
      rcases line_yield_cases sourceId order lineNumber line with none | some
      · refine ⟨accepted, ?_, by rw [none]; rfl⟩
        rw [filledLines, List.zipIdx_cons, List.filter_cons]
        split
        · exact inOrder.cons _
        · exact inOrder
      · obtain ⟨rule, single, _, origin, raw, filled⟩ := some
        refine ⟨(line, lineNumber) :: accepted, ?_, ?_⟩
        · rw [filledLines, List.zipIdx_cons, List.filter_cons, if_pos (by simpa using filled)]
          exact inOrder.cons_cons _
        · rw [single, List.map_singleton, List.map_cons, raw, origin]
          rfl

theorem read_lines_settled {lines : List Text} {numbered : Text × Nat}
    (member : numbered ∈ filledLines lineNumber lines) :
    (∃ rule ∈ (readLines sourceId order lineNumber lines).1,
        rule.raw = String.ofList numbered.1 ∧ rule.origin = lineOrigin sourceId numbered.2) ∨
      ∃ diagnostic ∈ (readLines sourceId order lineNumber lines).2,
        diagnostic.origin = lineOrigin sourceId numbered.2 := by
  induction lines generalizing order lineNumber with
  | nil => cases member
  | cons line lines induction =>
      rw [filledLines, List.mem_filter, List.zipIdx_cons, List.mem_cons] at member
      obtain ⟨place, filled⟩ := member
      rw [decide_eq_true_eq] at filled
      simp only [readLines, List.mem_append]
      rcases place with here | later
      · subst here
        rcases line_yield_settled sourceId order lineNumber filled with accepted | reported
        · obtain ⟨rule, accepted⟩ := accepted
          have first : rule ∈ (lineYield sourceId order lineNumber line).1 := by
            rw [accepted]
            exact List.mem_cons_self
          have labels := line_yield_rule first
          exact Or.inl ⟨rule, Or.inl first, labels.2.2.1, labels.2.1⟩
        · obtain ⟨diagnostic, first⟩ := List.exists_mem_of_ne_nil _ reported
          exact Or.inr ⟨diagnostic, Or.inl first, line_yield_diagnostic first⟩
      · have inside : numbered ∈ filledLines (lineNumber + 1) lines :=
          List.mem_filter.mpr ⟨later, by simpa using filled⟩
        rcases induction (order + (lineYield sourceId order lineNumber line).1.length)
            (lineNumber + 1) inside with accepted | reported
        · obtain ⟨rule, own, labels⟩ := accepted
          exact Or.inl ⟨rule, Or.inr own, labels⟩
        · obtain ⟨diagnostic, own, origin⟩ := reported
          exact Or.inr ⟨diagnostic, Or.inr own, origin⟩

theorem read_lines_blank {lines : List Text} (blank : ∀ line ∈ lines, strip line = []) :
    readLines sourceId order lineNumber lines = ([], []) := by
  induction lines generalizing order lineNumber with
  | nil => rfl
  | cons line lines induction =>
      rw [readLines, line_yield_blank (blank line List.mem_cons_self),
        induction _ _ fun other member => blank other (List.mem_cons_of_mem _ member)]
      rfl

end Loop

/-- The result for a text of the given lines. -/
def parseLines (sourceId : String) (lines : List Text) : ParseResult :=
  parseAuditdRules sourceId (String.ofList (['\n'].intercalate lines))

theorem parse_lines_eq (sourceId : String) {lines : List Text}
    (whole : ∀ line ∈ lines, ∀ char ∈ line, isLineBreak char = false) :
    parseLines sourceId lines =
      { determinacy := determinacyOf (readLines sourceId 1 1 lines).2
        rules := (readLines sourceId 1 1 lines).1
        diagnostics := (readLines sourceId 1 1 lines).2 } := by
  obtain ⟨blank, empty, rest⟩ := splitlines_joined_blank whole
  have kept : readLines sourceId 1 1 lines =
      readLines sourceId 1 1 (splitlines (['\n'].intercalate lines)) := by
    conv_lhs => rw [← rest]
    have nothing : ∀ line ∈ blank, strip line = [] := by
      intro line member
      rw [empty line member]
      rfl
    rw [read_lines_append, read_lines_blank _ _ _ nothing, List.append_nil, List.append_nil]
  rw [kept, parseLines, parse_auditd_rules_eq, String.toList_ofList]

/-- The results for two lists of lines, and the result for both together. -/
structure Combines (sourceId : String) (first second : List Text) : Prop where
  rules : ∃ shifted,
    (parseLines sourceId (first ++ second)).rules =
        (parseLines sourceId first).rules ++ shifted ∧
      List.Forall₂
        (ShiftedRule sourceId (parseLines sourceId first).rules.length first.length)
        (parseLines sourceId second).rules shifted
  diagnostics : ∃ shifted,
    (parseLines sourceId (first ++ second)).diagnostics =
        (parseLines sourceId first).diagnostics ++ shifted ∧
      List.Forall₂ (ShiftedDiagnostic sourceId first.length)
        (parseLines sourceId second).diagnostics shifted
  determinacy : (parseLines sourceId (first ++ second)).determinacy = .unknown ↔
    (parseLines sourceId first).determinacy = .unknown ∨
      (parseLines sourceId second).determinacy = .unknown

/-- Nothing that stands on the lines is lost, and each rule has a line of its own. -/
structure AccountsFor (sourceId : String) (lines : List Text) : Prop where
  settled : ∀ numbered ∈ filledLines 1 lines,
    (∃ rule ∈ (parseLines sourceId lines).rules,
        rule.raw = String.ofList numbered.1 ∧ rule.origin = lineOrigin sourceId numbered.2) ∨
      ∃ diagnostic ∈ (parseLines sourceId lines).diagnostics,
        diagnostic.origin = lineOrigin sourceId numbered.2
  sources : ∃ accepted : List (Text × Nat), accepted.Sublist (filledLines 1 lines) ∧
    (parseLines sourceId lines).rules.map (fun rule => (rule.raw, rule.origin)) =
      accepted.map (sourceOf sourceId)
  orders : (parseLines sourceId lines).rules.map Rule.order =
    List.range' 1 (parseLines sourceId lines).rules.length

theorem lines_combine (sourceId : String) {first second : List Text}
    (whole : ∀ line ∈ first ++ second, ∀ char ∈ line, isLineBreak char = false) :
    Combines sourceId first second := by
  have firstWhole : ∀ line ∈ first, ∀ char ∈ line, isLineBreak char = false :=
    fun line member => whole line (List.mem_append_left _ member)
  have secondWhole : ∀ line ∈ second, ∀ char ∈ line, isLineBreak char = false :=
    fun line member => whole line (List.mem_append_right _ member)
  have both := parse_lines_eq sourceId whole
  have shifted := read_lines_shifted sourceId 1 1 (readLines sourceId 1 1 first).1.length
    first.length second
  rw [read_lines_append] at both
  constructor
  · rw [both, parse_lines_eq sourceId firstWhole, parse_lines_eq sourceId secondWhole]
    exact ⟨_, rfl, shifted.1⟩
  · rw [both, parse_lines_eq sourceId firstWhole, parse_lines_eq sourceId secondWhole]
    exact ⟨_, rfl, shifted.2⟩
  · rw [both, parse_lines_eq sourceId firstWhole, parse_lines_eq sourceId secondWhole]
    simp only [determinacy_unknown_iff, ne_eq, ← List.length_eq_zero_iff, shifted.2.length_eq,
      List.length_append]
    omega

theorem lines_accounted (sourceId : String) {lines : List Text}
    (whole : ∀ line ∈ lines, ∀ char ∈ line, isLineBreak char = false) :
    AccountsFor sourceId lines := by
  constructor
  · rw [parse_lines_eq sourceId whole]
    intro numbered member
    exact read_lines_settled sourceId 1 1 member
  · rw [parse_lines_eq sourceId whole]
    exact read_lines_sources sourceId 1 1 lines
  · rw [parse_lines_eq sourceId whole]
    exact read_lines_orders sourceId 1 1 lines

/-- The parser works line by line: the result for a text is put together from the results for its
two parts, and every line of a text is accounted for. -/
theorem rule_lines_local (sourceId : String) (first second : List Text)
    (whole : ∀ line ∈ first ++ second, ∀ char ∈ line, isLineBreak char = false) :
    Combines sourceId first second ∧ AccountsFor sourceId (first ++ second) :=
  ⟨lines_combine sourceId whole, lines_accounted sourceId whole⟩

/-- A rule, a blank line and a line that is refused. -/
def mixedLines : List Text := ["-w /etc/passwd -p wa".toList, [], "-p wa".toList]

theorem rule_lines_local_mixed :
    Combines "auditctl -l" mixedLines mixedLines ∧
      AccountsFor "auditctl -l" (mixedLines ++ mixedLines) := by
  apply rule_lines_local
  intro line member
  simp only [mixedLines, List.cons_append, List.nil_append, List.mem_cons, List.not_mem_nil,
    or_false] at member
  rcases member with rfl | rfl | rfl | rfl | rfl | rfl <;> exact none_of_all (by decide)

end Sigmascope
