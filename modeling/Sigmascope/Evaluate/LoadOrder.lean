import Mathlib.Data.List.Sort
import Sigmascope.Evaluate.Auditd
import Sigmascope.Library.HeadInsert
import Sigmascope.Parse.RuleLines

/-!
The order of the rules against the filter lists of the kernel. The kernel takes the
lines of a text one after the other; `-a` appends a rule to its list and `-A` inserts
it at the head. The parser numbers both kinds of lines in the order of the text.
-/

namespace Sigmascope

set_option autoImplicit false

open Sigmascope.Library Sigmascope.Library.PyText

def insertsAtHead (line : Text) : Bool := line.take 2 == ['-', 'A']

def loadsRule (line : Text) : Bool := line.take 2 == ['-', 'a'] || insertsAtHead line

/-- The filter list that the last action option among the tokens names. -/
def saidScope (tokens : List Text) : String :=
  (lastWrite (fun option => option.action?.map Prod.snd) (saidBy tokens) none).getD "exit"

def filterList (line : Text) : String := saidScope (lineTokens line)

/-- The filter lists of the kernel after the numbered lines are loaded in turn. -/
def kernelLists (lines : List Text) : String → List (Text × Nat) :=
  fill (fun numbered => insertsAtHead numbered.1) (fun numbered => filterList numbered.1)
    (lines.zipIdx 1)

def ruleSource (rule : Rule) : String × Origin := (rule.raw, rule.origin)

def sortedByOrder (rules : List Rule) : List Rule :=
  rules.insertionSort fun first second => first.order ≤ second.order

/-- The order field gives each filter list as the kernel holds it, and a never rule that the
kernel consults before an always rule has the smaller order. -/
structure EvaluationOrder (sourceId : String) (lines : List Text) (rules : List Rule) : Prop where
  lists : ∀ name, (sortedByOrder (rules.filter fun rule => rule.onList name)).map ruleSource =
    (kernelLists lines name).map (sourceOf sourceId)
  neverEarlier : ∀ never ∈ rules, ∀ always ∈ rules,
    isNeverExit never = true → always.effect = .included →
      [ruleSource never, ruleSource always].Sublist
          ((kernelLists lines "exit").map (sourceOf sourceId)) →
        never.order < always.order

section Sources

variable (sourceId : String)

/-- A rule that comes from a numbered line. -/
structure ComesFrom (sourceId : String) (rule : Rule) (numbered : Text × Nat) : Prop where
  source : ruleSource rule = sourceOf sourceId numbered
  onList : ∀ name, rule.onList name = decide (filterList numbered.1 = name)

theorem accepted_scope {line : Text} {tokens : List Text} {order : Nat} {origin : Origin}
    {rule : Rule} (accepted : parseRule line tokens order origin = (some rule, [])) :
    ∃ syscalls, rule.selector = .syscall ⟨syscalls, saidScope tokens⟩ := by
  have known := (parse_rule_accepts_iff.mp ⟨rule, accepted⟩).known
  have scope : ((saidBy tokens).foldl RuleState.apply {}).scope = saidScope tokens := by
    apply Option.some.inj
    rw [apply_run_scope, lastWrite, Option.or_some, saidScope, lastWrite, Option.or_none]
  rw [parse_rule_known known] at accepted
  obtain ⟨_, selector, _⟩ := close_accepted accepted
  exact ⟨_, by rw [selector, scope]⟩

theorem line_comes_from {order lineNumber : Nat} {line : Text} (filled : strip line ≠ [])
    (quiet : (lineYield sourceId order lineNumber line).2 = []) :
    ∃ rule, (lineYield sourceId order lineNumber line).1 = [rule] ∧
      ComesFrom sourceId rule (line, lineNumber) := by
  rcases line_yield_settled sourceId order lineNumber filled with single | reported
  · obtain ⟨rule, single⟩ := single
    have labels := line_yield_rule (single ▸ List.mem_cons_self : rule ∈ _)
    refine ⟨rule, single, Prod.ext labels.2.2.1 labels.2.1, ?_⟩
    intro name
    rw [line_yield_filled filled] at single quiet
    obtain ⟨syscalls, selector⟩ := accepted_scope
      (Prod.ext (Option.toList_eq_singleton_iff.mp single) quiet)
    rw [Rule.onList, selector]
    rfl
  · exact absurd quiet reported

/-- A text without diagnostics and blank lines has one rule for each line. -/
theorem lines_come_from {lines : List Text} {order lineNumber : Nat}
    (filled : ∀ line ∈ lines, strip line ≠ [])
    (quiet : (readLines sourceId order lineNumber lines).2 = []) :
    List.Forall₂ (ComesFrom sourceId) (readLines sourceId order lineNumber lines).1
      (lines.zipIdx lineNumber) := by
  induction lines generalizing order lineNumber with
  | nil => exact .nil
  | cons line lines induction =>
      rw [readLines, List.append_eq_nil_iff] at quiet
      obtain ⟨rule, single, own⟩ :=
        line_comes_from sourceId (filled line List.mem_cons_self) quiet.1
      have rest := induction (fun other member => filled other (List.mem_cons_of_mem _ member))
        quiet.2
      rw [readLines, single, List.zipIdx_cons]
      rw [single] at rest
      exact .cons own rest

theorem source_of_injective {first second : Text × Nat}
    (same : sourceOf sourceId first = sourceOf sourceId second) : first = second := by
  obtain ⟨raw, origin⟩ := Prod.mk.inj same
  exact Prod.ext (String.ofList_injective raw) (line_origin_injective sourceId origin)

variable {sourceId} {rules : List Rule} {items : List (Text × Nat)}
  (origins : List.Forall₂ (ComesFrom sourceId) rules items)
include origins

theorem sources_eq : rules.map ruleSource = items.map (sourceOf sourceId) := by
  rw [← List.forall₂_eq_eq_eq, List.forall₂_map_left_iff, List.forall₂_map_right_iff]
  exact origins.imp fun _ _ own => own.source

theorem list_sources (name : String) :
    (rules.filter fun rule => rule.onList name).map ruleSource =
      (items.filter fun numbered => filterList numbered.1 = name).map (sourceOf sourceId) := by
  have alike : ∀ rule numbered, ComesFrom sourceId rule numbered →
      (rule.onList name = true ↔ decide (filterList numbered.1 = name) = true) := by
    intro rule numbered own
    rw [own.onList]
  exact sources_eq (List.rel_filter (fun rule numbered own => alike rule numbered own) origins)

/-- Rules of different lines are told apart by their sources. -/
theorem sources_distinct (distinct : items.Nodup) : (rules.map ruleSource).Nodup := by
  rw [sources_eq origins]
  exact distinct.map fun _ _ same => source_of_injective sourceId same

end Sources

section Orders

variable {rules : List Rule} (increasing : rules.Pairwise fun first second =>
  first.order < second.order)
include increasing

theorem sorted_by_order_self : sortedByOrder rules = rules := by
  apply List.Pairwise.insertionSort_eq
  exact increasing.imp Nat.le_of_lt

/-- The order of two rules can be read off the sources of a list that has both. -/
theorem order_of_sources (distinct : (rules.map ruleSource).Nodup) {first second : Rule}
    (one : first ∈ rules) (two : second ∈ rules)
    (inOrder : [ruleSource first, ruleSource second].Sublist (rules.map ruleSource)) :
    first.order < second.order := by
  obtain ⟨pair, within, same⟩ := List.sublist_map_iff.mp inOrder
  rcases pair with _ | ⟨left, _ | ⟨right, rest⟩⟩
  · simp at same
  · simp at same
  · simp only [List.map_cons, List.cons.injEq] at same
    have alike := List.inj_on_of_nodup_map distinct
    rw [alike one (within.subset List.mem_cons_self) same.1,
      alike two (within.subset (List.mem_cons_of_mem _ List.mem_cons_self)) same.2.1]
    exact List.rel_of_pairwise_cons (increasing.sublist within) List.mem_cons_self

end Orders

theorem rules_increasing (sourceId : String) (order lineNumber : Nat) (lines : List Text) :
    (readLines sourceId order lineNumber lines).1.Pairwise fun first second =>
      first.order < second.order := by
  rw [← List.pairwise_map (f := Rule.order) (R := fun first second : Nat => first < second),
    read_lines_orders]
  exact List.pairwise_lt_range'

theorem numbered_distinct (lines : List Text) (first : Nat) : (lines.zipIdx first).Nodup := by
  have numbers : ((lines.zipIdx first).map Prod.snd).Nodup := by
    rw [List.zipIdx_map_snd]
    exact List.nodup_range'
  exact numbers.of_map

/-- A line that loads a rule is not blank. -/
theorem loads_filled {line : Text} (loads : loadsRule line = true) : strip line ≠ [] := by
  have dash : '-' ∈ line := by
    simp only [loadsRule, insertsAtHead, Bool.or_eq_true, beq_iff_eq] at loads
    rcases loads with append | prepend
    · exact List.mem_of_mem_take (append ▸ List.mem_cons_self)
    · exact List.mem_of_mem_take (prepend ▸ List.mem_cons_self)
  exact strip_visible dash (by decide)

section Text

variable {sourceId : String} {lines : List Text}
  (loads : ∀ line ∈ lines, loadsRule line = true)
  (quiet : (readLines sourceId 1 1 lines).2 = [])
include loads quiet

theorem loaded_lines_come_from :
    List.Forall₂ (ComesFrom sourceId) (readLines sourceId 1 1 lines).1 (lines.zipIdx 1) :=
  lines_come_from sourceId (fun line member => loads_filled (loads line member)) quiet

/-- Sorting by the order field gives each list in the order of the text. -/
theorem sorted_list_sources (name : String) :
    (sortedByOrder ((readLines sourceId 1 1 lines).1.filter fun rule =>
        rule.onList name)).map ruleSource =
      ((lines.zipIdx 1).filter fun numbered => filterList numbered.1 = name).map
        (sourceOf sourceId) := by
  have increasing := rules_increasing sourceId 1 1 lines
  rw [sorted_by_order_self (increasing.filter _),
    list_sources (loaded_lines_come_from loads quiet)]

theorem lists_in_order_iff :
    (∀ name, (sortedByOrder ((readLines sourceId 1 1 lines).1.filter fun rule =>
        rule.onList name)).map ruleSource =
          (kernelLists lines name).map (sourceOf sourceId)) ↔
      lines.Pairwise fun earlier later =>
        insertsAtHead later = true → filterList earlier ≠ filterList later := by
  have injective : Function.Injective (sourceOf sourceId) :=
    fun _ _ same => source_of_injective sourceId same
  have each : ∀ name, (sortedByOrder ((readLines sourceId 1 1 lines).1.filter fun rule =>
        rule.onList name)).map ruleSource = (kernelLists lines name).map (sourceOf sourceId) ↔
      kernelLists lines name =
        (lines.zipIdx 1).filter fun numbered => filterList numbered.1 = name := by
    intro name
    rw [sorted_list_sources loads quiet, List.map_inj_right (fun _ _ same => injective same)]
    exact eq_comm
  have texts : lines = (lines.zipIdx 1).map Prod.fst := (List.zipIdx_map_fst 1 lines).symm
  simp only [each]
  conv_rhs => rw [texts, List.pairwise_map]
  exact fill_in_order_iff (numbered_distinct lines 1)

end Text

/-- Where the order field is the order of the kernel, no line is put in front of another one. -/
theorem kernel_order_plain {sourceId data : String}
    (loads : ∀ line ∈ splitlines data.toList, loadsRule line = true)
    (quiet : (parseAuditdRules sourceId data).diagnostics = [])
    (given : EvaluationOrder sourceId (splitlines data.toList)
      (parseAuditdRules sourceId data).rules) :
    (splitlines data.toList).Pairwise fun earlier later =>
      insertsAtHead later = true → filterList earlier ≠ filterList later := by
  rw [parse_auditd_rules_eq] at quiet given
  exact (lists_in_order_iff loads quiet).mp given.lists

theorem load_order_exact (sourceId data : String)
    (loads : ∀ line ∈ splitlines data.toList, loadsRule line = true)
    (quiet : (parseAuditdRules sourceId data).diagnostics = []) :
    EvaluationOrder sourceId (splitlines data.toList) (parseAuditdRules sourceId data).rules ↔
      (splitlines data.toList).Pairwise fun earlier later =>
        insertsAtHead later = true → filterList earlier ≠ filterList later := by
  constructor
  · intro given
    exact kernel_order_plain loads quiet given
  · intro apart
    rw [parse_auditd_rules_eq] at quiet ⊢
    have lists := (lists_in_order_iff loads quiet).mpr apart
    have increasing := rules_increasing sourceId 1 1 (splitlines data.toList)
    have distinct := sources_distinct (loaded_lines_come_from loads quiet) (numbered_distinct _ 1)
    refine ⟨lists, ?_⟩
    intro never one always two _ _ inOrder
    rw [← lists "exit", sorted_by_order_self (increasing.filter _)] at inOrder
    exact order_of_sources increasing distinct one two
      (inOrder.trans (List.filter_sublist.map ruleSource))

/-- A never rule is put at the head of a list that holds nothing yet. -/
def neverFirstText : String :=
  "-A never,exit -F arch=b64 -S execve\n-a always,exit -F arch=b64 -S execve"

theorem load_order_exact_never_first :
    EvaluationOrder "auditctl -l" (splitlines neverFirstText.toList)
        (parseAuditdRules "auditctl -l" neverFirstText).rules ↔
      (splitlines neverFirstText.toList).Pairwise fun earlier later =>
        insertsAtHead later = true → filterList earlier ≠ filterList later :=
  load_order_exact "auditctl -l" neverFirstText (by decide +kernel) (by decide +kernel)

/-- Two always rules, and a never rule that `-A` puts in front of them. -/
def neverInsertedText : String :=
  "-a always,exit -F arch=b64 -S execve,execveat\n" ++
    "-a always,exit -F arch=b32 -S execve,execveat\n" ++
      "-A never,exit -F arch=b64 -S execve"

/-- The kernel consults the never rule first, the parser numbers it last, and the listing is
reported as COVERED. -/
theorem never_inserted_covered :
    (∀ line ∈ splitlines neverInsertedText.toList, loadsRule line = true) ∧
      (parseAuditdRules "auditctl -l" neverInsertedText).diagnostics = [] ∧
      ¬EvaluationOrder "auditctl -l" (splitlines neverInsertedText.toList)
        (parseAuditdRules "auditctl -l" neverInsertedText).rules ∧
      (kernelLists (splitlines neverInsertedText.toList) "exit").map Prod.snd = [3, 1, 2] ∧
      ((parseAuditdRules "auditctl -l" neverInsertedText).rules.map fun rule =>
        (isNeverExit rule, rule.order)) = [(false, 1), (false, 2), (true, 3)] ∧
      (evaluateProcessCreation (parseAuditdRules "auditctl -l" neverInsertedText) "x86_64").1 =
        .covered := by
  have runs : (∀ line ∈ splitlines neverInsertedText.toList, loadsRule line = true) ∧
      (parseAuditdRules "auditctl -l" neverInsertedText).diagnostics = [] ∧
      (kernelLists (splitlines neverInsertedText.toList) "exit").map Prod.snd = [3, 1, 2] ∧
      ((parseAuditdRules "auditctl -l" neverInsertedText).rules.map fun rule =>
        (isNeverExit rule, rule.order)) = [(false, 1), (false, 2), (true, 3)] ∧
      (evaluateProcessCreation (parseAuditdRules "auditctl -l" neverInsertedText) "x86_64").1 =
        .covered := by
    decide +kernel
  obtain ⟨loads, quiet, results⟩ := runs
  refine ⟨loads, quiet, ?_, results⟩
  intro given
  have apart := kernel_order_plain loads quiet given
  revert apart
  decide +kernel

end Sigmascope
