import Sigmascope.Evaluate.FileWatch
import Sigmascope.Evaluate.Renumbering
import Sigmascope.Parse.CanonicalListing
import Sigmascope.Parse.RuleLines

/-!
A watch and its always,exit form. The parser keeps the parts of a watch aside until the
end of the line, so their order does not matter, and the rule that it then makes is the
one that the written-out form is read as.
-/

namespace Sigmascope

set_option autoImplicit false

open Sigmascope.Library Sigmascope.Library.PyText

/-- The lines that mean a watch on a path with permissions and a key. -/
inductive WatchForm (path perms key : String) : String → Prop where
  | watch (parts : List String)
      (order : parts.Perm ["-w " ++ path, "-p " ++ perms, "-k " ++ key]) :
      WatchForm path perms key (" ".intercalate parts)
  | alwaysExit :
      WatchForm path perms key
        ("-a always,exit -F path=" ++ path ++ " -F perm=" ++ perms ++ " -k " ++ key)

/-- An equation on a field has no spelling that goes on in another one. -/
theorem equation_clean {field value : String} (start : field.toList.head?.any isFieldStart = true)
    (part : field.toList.all isFieldPart = true) (lowered : lower field.toList = field.toList)
    (plain : PlainValue value) : CleanFilter ⟨field, .eq, value⟩ where
  start := start
  part := List.all_eq_true.mp part
  lowered := lowered
  spelled := (by decide : PredicateOp.eq ≠ .contains)
  trimmed := plain.trimmed
  whole := plain.whole
  apart := by
    intro prefixed
    revert prefixed
    simp [opPrefixes]

theorem normalised_other {field : String} (other : field ≠ "auid") (value : String) :
    normaliseValue field value = value :=
  if_neg fun given => other given.1

section Forms

variable (path perms key : String)

def watchOptions : List LineOption :=
  [⟨'w', path.toList⟩, ⟨'p', perms.toList⟩, ⟨'k', key.toList⟩]

/-- The written-out form as a rule of a listing. -/
def alwaysExitRule : ListedRule :=
  .syscallRule .included "exit" false
    [.filter (pathPredicate path), .filter (permPredicate perms), .key key]

/-- What both forms are read as. -/
def watchRule (raw : String) (order : Nat) (origin : Origin) : Rule where
  effect := .included
  selector := .syscall ⟨∅, "exit"⟩
  predicates := [pathPredicate path, permPredicate perms, ⟨"key", .eq, key⟩]
  order := order
  origin := origin
  raw := raw

theorem always_exit_text :
    ("-a always,exit -F path=" ++ path ++ " -F perm=" ++ perms ++ " -k " ++ key).toList =
      (alwaysExitRule path perms key).line := by
  simp [alwaysExitRule, ListedRule.line, ListedRule.options, RuleItem.option, actionText,
    actionName, filterText, opSpelling, pathPredicate, permPredicate, lineText, LineOption.text,
    List.intercalate]

theorem watch_parts_text {parts : List String}
    (order : parts.Perm ["-w " ++ path, "-p " ++ perms, "-k " ++ key]) :
    ∃ options, options.Perm (watchOptions path perms key) ∧
      (" ".intercalate parts).toList = lineText options := by
  have written : List.Forall₂ (fun part option => part.toList = LineOption.text option)
      ["-w " ++ path, "-p " ++ perms, "-k " ++ key] (watchOptions path perms key) := by
    simp [watchOptions, LineOption.text]
  obtain ⟨options, same, permuted⟩ := List.perm_comp_forall₂ order written
  refine ⟨options, permuted, ?_⟩
  have texts : parts.map String.toList = options.map LineOption.text := by
    rwa [← List.forall₂_eq_eq_eq, List.forall₂_map_left_iff, List.forall₂_map_right_iff]
  rw [String.toList_intercalate, texts]
  rfl

variable {path perms key}
variable (pathPlain : PlainValue path) (permsPlain : PlainValue perms) (keyPlain : PlainValue key)
include pathPlain permsPlain keyPlain

theorem watch_options_clean {options : List LineOption}
    (permuted : options.Perm (watchOptions path perms key)) :
    options ≠ [] ∧ ∀ option ∈ options, option.Clean := by
  constructor
  · intro empty
    rw [empty] at permuted
    exact List.cons_ne_nil _ _ permuted.nil_eq.symm
  · intro option member
    have listed := permuted.mem_iff.mp member
    simp only [watchOptions, List.mem_cons, List.not_mem_nil, or_false] at listed
    rcases listed with rfl | rfl | rfl
    · exact value_option_clean (by decide) pathPlain
    · exact value_option_clean (by decide) permsPlain
    · exact value_option_clean (by decide) keyPlain

/-- The parts of a watch may be read in any order. -/
theorem read_watch_options {options : List LineOption}
    (permuted : options.Perm (watchOptions path perms key)) (origin : Origin) :
    (options.map fun option => strip option.text).foldl (readToken origin) {} =
      { predicates := [⟨"key", .eq, key⟩], watchPath := some path, watchPerms := some perms } := by
  have path' := fun state : RuleState => @read_watch_path origin state path pathPlain
  have perms' := fun state : RuleState => @read_watch_perms origin state perms permsPlain
  have key' := fun state : RuleState => @read_key origin state key keyPlain
  have listed := permuted.map fun option => strip option.text
  rw [listed.foldl_eq']
  · simp only [watchOptions, List.map_cons, List.map_nil, List.foldl_cons, List.foldl_nil, path',
      perms', key']
    rfl
  · intro first firstMember second secondMember state
    replace firstMember := listed.mem_iff.mp firstMember
    replace secondMember := listed.mem_iff.mp secondMember
    simp only [watchOptions, List.map_cons, List.map_nil, List.mem_cons, List.not_mem_nil,
      or_false] at firstMember secondMember
    rcases firstMember with rfl | rfl | rfl <;> rcases secondMember with rfl | rfl | rfl <;>
      simp only [path', perms', key']

theorem always_exit_plain : (alwaysExitRule path perms key).Plain := by
  have scope : CleanScope "exit" :=
    ⟨⟨by decide, none_of_all (by decide), by decide⟩, by decide, by decide⟩
  refine ⟨scope, ?_⟩
  intro item member
  simp only [List.mem_cons, List.not_mem_nil, or_false] at member
  rcases member with rfl | rfl | rfl
  · exact ⟨equation_clean (by decide) (by decide) (by decide) pathPlain, pathPlain.free⟩
  · exact ⟨equation_clean (by decide) (by decide) (by decide) permsPlain, permsPlain.free⟩
  · exact keyPlain

theorem parse_watch_form {line : String} (form : WatchForm path perms key line) (order : Nat)
    (origin : Origin) :
    parseRule line.toList (lineTokens line.toList) order origin =
      (some (watchRule path perms key line order origin), []) := by
  cases form with
  | watch parts permuted =>
      obtain ⟨options, permuted, text⟩ := watch_parts_text path perms key permuted
      obtain ⟨nonempty, clean⟩ := watch_options_clean pathPlain permsPlain keyPlain permuted
      rw [parseRule, text, line_tokens options clean nonempty,
        read_watch_options pathPlain permsPlain keyPlain permuted, ← text]
      simp only [closeWatch, closeRule, String.ofList_toList]
      rfl
  | alwaysExit =>
      have plain := always_exit_plain pathPlain permsPlain keyPlain
      have raw := congrArg String.ofList (always_exit_text path perms key)
      rw [String.ofList_toList] at raw
      have path' := normalised_other (show "path" ≠ "auid" by decide) path
      have perms' := normalised_other (show "perm" ≠ "auid" by decide) perms
      rw [always_exit_text, parse_listed_rule plain]
      simp only [ListedRule.rule, ← raw]
      simp [alwaysExitRule, ListedRule.effect, ListedRule.names, ListedRule.scope,
        ListedRule.predicates, RuleItem.names, RuleItem.predicates, pathPredicate, permPredicate,
        path', perms', watchRule]

theorem watch_form_options {line : String} (form : WatchForm path perms key line) :
    ∃ options, options ≠ [] ∧ (∀ option ∈ options, option.Clean) ∧
      line.toList = lineText options := by
  cases form with
  | watch parts permuted =>
      obtain ⟨options, permuted, text⟩ := watch_parts_text path perms key permuted
      obtain ⟨nonempty, clean⟩ := watch_options_clean pathPlain permsPlain keyPlain permuted
      exact ⟨options, nonempty, clean, text⟩
  | alwaysExit =>
      exact ⟨_, listed_options_nonempty _,
        listed_options_clean (always_exit_plain pathPlain permsPlain keyPlain),
        always_exit_text path perms key⟩

theorem watch_form_dash {line : String} (form : WatchForm path perms key line) :
    '-' ∈ line.toList := by
  obtain ⟨options, nonempty, _, text⟩ := watch_form_options pathPlain permsPlain keyPlain form
  obtain ⟨option, rest, split⟩ := List.exists_cons_of_ne_nil nonempty
  rw [text, split]
  cases rest with
  | nil => simp [lineText, LineOption.text]
  | cons next rest => simp [line_text_cons, LineOption.text]

/-- The line loop makes one rule of a form, and nothing is reported. -/
theorem watch_form_yield {line : String} (form : WatchForm path perms key line)
    (sourceId : String) (order lineNumber : Nat) :
    lineYield sourceId order lineNumber line.toList =
      ([watchRule path perms key line order (lineOrigin sourceId lineNumber)], []) := by
  have dash := watch_form_dash pathPlain permsPlain keyPlain form
  rw [line_yield_filled (strip_visible dash (by decide)),
    parse_watch_form pathPlain permsPlain keyPlain form]
  rfl

theorem watch_form_lines {line : String} (form : WatchForm path perms key line)
    {front back : String} (ends : EndsLine front.toList) (begins : BeginsAfterLine back.toList) :
    splitlines (front ++ line ++ back).toList =
      splitlines front.toList ++ line.toList :: (splitlines back.toList).tail := by
  obtain ⟨options, _, clean, text⟩ := watch_form_options pathPlain permsPlain keyPlain form
  have nonempty := List.ne_nil_of_mem (watch_form_dash pathPlain permsPlain keyPlain form)
  have whole : ∀ char ∈ line.toList, isLineBreak char = false := by
    rw [text]
    exact line_text_whole clean
  rw [String.toList_append, String.toList_append, List.append_assoc]
  exact splitlines_exchange ends begins whole nonempty

end Forms

theorem parsed_increasing (sourceId data : String) :
    Increasing (parseAuditdRules sourceId data).rules := by
  have orders := read_lines_orders sourceId 1 1 (splitlines data.toList)
  rw [parse_auditd_rules_eq, Increasing, ← List.pairwise_map, orders]
  exact List.pairwise_lt_range'

section Relabelled

variable {before after : List Rule} (relabelled : Relabelled before after)
include relabelled

/-- The file-watch evaluator does not look at the labels either. -/
theorem relabelled_file_watch (parsed : ParseResult) :
    evaluateFileWatch { parsed with rules := before } =
      evaluateFileWatch { parsed with rules := after } := by
  have presented : before.flatMap targetValues = after.flatMap targetValues := by
    rw [List.flatMap_def, List.flatMap_def, same_map relabelled fun _ => rfl]
  have targets : watchTargets before = watchTargets after := by
    rw [watch_targets_eq, watch_targets_eq, presented]
  have suppressed := alike_suppression (relabelled_alike relabelled)
  have never : before.any isNeverExit = after.any isNeverExit := same_any relabelled fun _ => rfl
  simp only [evaluateFileWatch, targets, suppressed, never]

end Relabelled

section Exchange

variable {path perms key : String} (pathPlain : PlainValue path) (permsPlain : PlainValue perms)
  (keyPlain : PlainValue key)
include pathPlain permsPlain keyPlain

/-- Exchanging one form for another in a listing changes the labels of the rules at most. -/
theorem exchanged_forms_relabelled {first second : String}
    (firstForm : WatchForm path perms key first) (secondForm : WatchForm path perms key second)
    {front back : String} (ends : EndsLine front.toList) (begins : BeginsAfterLine back.toList)
    (sourceId : String) :
    ∃ rules, Relabelled (parseAuditdRules sourceId (front ++ first ++ back)).rules rules ∧
      parseAuditdRules sourceId (front ++ second ++ back) =
        { parseAuditdRules sourceId (front ++ first ++ back) with rules := rules } := by
  have firstLines := watch_form_lines pathPlain permsPlain keyPlain firstForm ends begins
  have secondLines := watch_form_lines pathPlain permsPlain keyPlain secondForm ends begins
  have firstYield := watch_form_yield pathPlain permsPlain keyPlain firstForm
  have secondYield := watch_form_yield pathPlain permsPlain keyPlain secondForm
  rw [parse_auditd_rules_eq, parse_auditd_rules_eq, firstLines, secondLines, read_lines_append,
    read_lines_append]
  simp only [readLines, firstYield, secondYield, List.length_singleton, List.nil_append]
  refine ⟨_, ?_, rfl⟩
  apply same_append rfl
  exact same_append rfl rfl

theorem exchanged_forms_reports {first second : String}
    (firstForm : WatchForm path perms key first) (secondForm : WatchForm path perms key second)
    {front back : String} (ends : EndsLine front.toList) (begins : BeginsAfterLine back.toList)
    (sourceId : String) :
    evaluateFileWatch (parseAuditdRules sourceId (front ++ second ++ back)) =
        evaluateFileWatch (parseAuditdRules sourceId (front ++ first ++ back)) ∧
      ∀ machineArch,
        evaluateProcessCreation (parseAuditdRules sourceId (front ++ second ++ back)) machineArch =
          evaluateProcessCreation (parseAuditdRules sourceId (front ++ first ++ back))
            machineArch := by
  obtain ⟨rules, relabelled, exchanged⟩ := exchanged_forms_relabelled pathPlain permsPlain keyPlain
    firstForm secondForm ends begins sourceId
  have increasing := parsed_increasing sourceId (front ++ first ++ back)
  have increasingAfter := parsed_increasing sourceId (front ++ second ++ back)
  rw [exchanged] at increasingAfter ⊢
  constructor
  · exact (relabelled_file_watch relabelled _).symm
  · intro machineArch
    exact (alike_process_creation (relabelled_alike relabelled) _ increasing increasingAfter
      machineArch).symm

/-- All forms of a watch are read as the same rule, and exchanging them in a listing leaves both
reports as they are. -/
theorem watch_forms_alike :
    (∀ line order origin, WatchForm path perms key line →
        parseRule line.toList (lineTokens line.toList) order origin =
          (some (watchRule path perms key line order origin), [])) ∧
      ∀ first second front back sourceId, WatchForm path perms key first →
        WatchForm path perms key second → EndsLine front.toList → BeginsAfterLine back.toList →
          evaluateFileWatch (parseAuditdRules sourceId (front ++ second ++ back)) =
              evaluateFileWatch (parseAuditdRules sourceId (front ++ first ++ back)) ∧
            ∀ machineArch,
              evaluateProcessCreation (parseAuditdRules sourceId (front ++ second ++ back))
                  machineArch =
                evaluateProcessCreation (parseAuditdRules sourceId (front ++ first ++ back))
                  machineArch := by
  constructor
  · intro line order origin form
    exact parse_watch_form pathPlain permsPlain keyPlain form order origin
  · intro first second front back sourceId firstForm secondForm ends begins
    exact exchanged_forms_reports pathPlain permsPlain keyPlain firstForm secondForm ends begins
      sourceId

end Exchange

/-- The key first, and a path with a blank. -/
def keyFirst : String := " ".intercalate ["-k etc", "-w /etc/my file", "-p wa"]

/-- The same watch written out. -/
def writtenOut : String := "-a always,exit -F path=/etc/my file -F perm=wa -k etc"

theorem watch_forms_alike_key_first :
    parseRule keyFirst.toList (lineTokens keyFirst.toList) 1 (lineOrigin "auditctl -l" 1) =
        (some (watchRule "/etc/my file" "wa" "etc" keyFirst 1 (lineOrigin "auditctl -l" 1)), []) ∧
      evaluateFileWatch
          (parseAuditdRules "auditctl -l" ("-w /etc/passwd -p wa\n" ++ writtenOut ++ "")) =
        evaluateFileWatch
          (parseAuditdRules "auditctl -l" ("-w /etc/passwd -p wa\n" ++ keyFirst ++ "")) := by
  have path : PlainValue "/etc/my file" := ⟨by decide, none_of_all (by decide), by decide⟩
  have perms : PlainValue "wa" := ⟨by decide, none_of_all (by decide), by decide⟩
  have key : PlainValue "etc" := ⟨by decide, none_of_all (by decide), by decide⟩
  have watch : WatchForm "/etc/my file" "wa" "etc" keyFirst := .watch _ (by decide)
  have written : WatchForm "/etc/my file" "wa" "etc" writtenOut := .alwaysExit
  constructor
  · exact (watch_forms_alike path perms key).1 keyFirst 1 (lineOrigin "auditctl -l" 1) watch
  · exact ((watch_forms_alike path perms key).2 keyFirst writtenOut "-w /etc/passwd -p wa\n" ""
      "auditctl -l" watch written rfl rfl).1

end Sigmascope
