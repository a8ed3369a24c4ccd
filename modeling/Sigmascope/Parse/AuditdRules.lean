import Sigmascope.Library.Cuts
import Sigmascope.Model
import Mathlib.Data.Finset.Basic

/-!
Parser for `auditctl -l` output. A line is cut at its option boundaries, the
pieces are read one after another into a mutable rule state, and the state is
turned into a rule at the end of the line.
-/

namespace Sigmascope

set_option autoImplicit false

open Sigmascope.Library Sigmascope.Library.PyText

/-- `(?<!\S)-[A-Za-z](?=\s|$)` -/
def optionBoundary : Regex :=
  Regex.concat
    [.notAfter Regex.notSpace, .single (· == '-'), .single isAsciiLetter,
      .ahead (.alt (.single isSpace) .lineEnd)]

def isFieldStart (char : Char) : Bool := isAsciiLetter char || char == '_'

def isFieldPart (char : Char) : Bool := isAsciiLetter char || isAsciiDigit char || char == '_'

/-- `^(?P<field>[A-Za-z_][A-Za-z0-9_]*)\s*(?P<op>!=|<=|>=|&=|=|<|>|&)\s*(?P<value>.*)$` -/
def filterPattern : Regex :=
  Regex.concat
    [.group "field" (.seq (.single isFieldStart) (.greedy isFieldPart)),
      .greedy isSpace,
      .group "op" (Regex.anyOf (["!=", "<=", ">=", "&=", "=", "<", ">", "&"].map Regex.literal)),
      .greedy isSpace,
      .group "value" (.greedy Regex.anyButNewline),
      .lineEnd]

def actions : List (String × Effect) := [("always", .included), ("never", .excluded)]

def ops : List (String × PredicateOp) :=
  [("=", .eq), ("!=", .ne), ("<", .lt), ("<=", .le), (">", .gt), (">=", .ge), ("&", .bitand),
    ("&=", .bitest)]

def splitOptions (line : Text) : List Text :=
  match optionBoundary.finditerStarts line with
  | [] => [line]
  | first :: rest =>
      slices line (if first ≠ 0 then 0 :: first :: rest else first :: rest)

/-- The two spellings of an unset audit user id become one. -/
def normaliseValue (field value : String) : String :=
  if field = "auid" ∧ (value = "-1" ∨ value = "4294967295") then "unset" else value

def parseFilter (raw : Text) : Option Predicate := do
  let captures ← filterPattern.matchText raw
  let field := String.ofList (lower (Regex.captured captures "field"))
  let value := String.ofList (Regex.captured captures "value")
  let op ← ops.lookup (String.ofList (Regex.captured captures "op"))
  some ⟨field, op, normaliseValue field value⟩

/-- The variables that the token loop of `_parse_rule` assigns. -/
structure RuleState where
  diagnostics : List Diagnostic := []
  effect : Option Effect := none
  scope : String := "exit"
  syscalls : Finset String := ∅
  predicates : List Predicate := []
  watchPath : Option String := none
  watchPerms : Option String := none

def RuleState.report (state : RuleState) (message : String) (origin : Origin) (raw : Text) :
    RuleState :=
  { state with
    diagnostics := state.diagnostics ++ [⟨.warn, message, origin, String.ofList raw⟩] }

/-- The options `-a` and `-A`: an action and a filter list in either order. -/
def readAction (origin : Origin) (state : RuleState) (token option value : Text) : RuleState :=
  let (before, found, after) := partition ',' value
  if !found then
    state.report ("invalid " ++ String.ofList option ++ " value " ++ pyRepr value) origin token
  else
    let first := String.ofList (lower (strip before))
    let second := String.ofList (lower (strip after))
    match actions.lookup first, actions.lookup second with
    | some effect, none => { state with effect := some effect, scope := second }
    | none, some effect => { state with effect := some effect, scope := first }
    | _, _ =>
        state.report ("unrecognised audit action in " ++ pyRepr value) origin token

/-- The names of a `-S` value; empty pieces are dropped. -/
def syscallNames (value : Text) : List String :=
  ((value.splitOn ',').map strip).filterMap fun name =>
    if name = [] then none else some (String.ofList name)

/-- One round of the token loop of `_parse_rule`. -/
def readToken (origin : Origin) (state : RuleState) (token : Text) : RuleState :=
  let (option, _, rest) := partition ' ' token
  let value := strip rest
  if option = ['-', 'a'] ∨ option = ['-', 'A'] then readAction origin state token option value
  else if option = ['-', 'S'] then
    { state with syscalls := state.syscalls ∪ (syscallNames value).toFinset }
  else if option = ['-', 'F'] then
    match parseFilter value with
    | none =>
        state.report ("unrecognised -F expression " ++ pyRepr value) origin token
    | some predicate => { state with predicates := state.predicates ++ [predicate] }
  else if option = ['-', 'w'] then { state with watchPath := some (String.ofList value) }
  else if option = ['-', 'p'] then { state with watchPerms := some (String.ofList value) }
  else if option = ['-', 'k'] then
    { state with predicates := state.predicates ++ [⟨"key", .eq, String.ofList value⟩] }
  else state.report ("unrecognised audit option " ++ String.ofList option) origin token

/-- A watch becomes an always rule with path and permissions in front. -/
def closeWatch (origin : Origin) (rawLine : Text) (state : RuleState) : RuleState :=
  match state.watchPath, state.watchPerms with
  | some path, some perms =>
      { state with
        effect := some .included
        predicates := ⟨"path", .eq, path⟩ :: ⟨"perm", .eq, perms⟩ :: state.predicates }
  | some path, none =>
      { state with
        effect := some .included
        predicates := ⟨"path", .eq, path⟩ :: state.predicates }
  | none, some _ => state.report "-p without -w" origin rawLine
  | none, none => state

def closeRule (origin : Origin) (rawLine : Text) (order : Nat) (state : RuleState) :
    Option Rule × List Diagnostic :=
  match state.effect with
  | none =>
      (none, (state.report "rule has no recognised action or watch" origin rawLine).diagnostics)
  | some effect =>
      (some
        { effect := effect
          selector := .syscall ⟨state.syscalls, state.scope⟩
          predicates := state.predicates
          order := order
          origin := origin
          raw := String.ofList rawLine },
        state.diagnostics)

def parseRule (rawLine : Text) (tokens : List Text) (order : Nat) (origin : Origin) :
    Option Rule × List Diagnostic :=
  closeRule origin rawLine order
    (closeWatch origin rawLine (tokens.foldl (readToken origin) {}))

/-- The pieces of a line without their surrounding blanks; blank pieces are dropped. -/
def lineTokens (line : Text) : List Text :=
  ((splitOptions line).map strip).filter fun token => token != []

def lineOrigin (sourceId : String) (lineNumber : Nat) : Origin :=
  ⟨sourceId, "line " ++ toString lineNumber⟩

theorem line_origin_injective (sourceId : String) {first second : Nat}
    (same : lineOrigin sourceId first = lineOrigin sourceId second) : first = second := by
  have locators : "line " ++ toString first = "line " ++ toString second :=
    congrArg Origin.locator same
  exact number_label_injective locators

/-- One round of the line loop of `parse_auditd_rules`. -/
def readRuleLine (sourceId : String) (state : List Rule × List Diagnostic)
    (numbered : Text × Nat) : List Rule × List Diagnostic :=
  let (line, lineNumber) := numbered
  if strip line = [] then state
  else
    let (rule, issues) :=
      parseRule line (lineTokens line) (state.1.length + 1) (lineOrigin sourceId lineNumber)
    (state.1 ++ rule.toList, state.2 ++ issues)

def parseAuditdRules (sourceId data : String) : ParseResult :=
  let (rules, diagnostics) :=
    ((splitlines data.toList).zipIdx 1).foldl (readRuleLine sourceId) ([], [])
  { determinacy := determinacyOf diagnostics
    rules := rules
    diagnostics := diagnostics }

end Sigmascope
