import Sigmascope.Library.Regex
import Sigmascope.Parse.AuditdRules

/-!
Parser for the text of `sysmon -c`. A marker line opens the rule section; before
it only the summary of the network connection feature is read, after it every
line belongs to a block, is blank, or is reported. The parser can raise: the
header pattern ignores letter case in the way of Unicode, so it accepts two
spellings of `include` that the effect enumeration does not know.
-/

namespace Sigmascope

set_option autoImplicit false

open Sigmascope.Library Sigmascope.Library.PyText

/-- `^\s*-\s*(?P<key>[^:]+):\s*(?P<value>.*)$` -/
def summaryPattern : Regex :=
  Regex.concat
    [.greedy isSpace, .single (· == '-'), .greedy isSpace,
      .group "key" (Regex.greedyPlus (· != ':')), .single (· == ':'), .greedy isSpace,
      .group "value" (.greedy Regex.anyButNewline), .lineEnd]

def isEventPart (char : Char) : Bool := Regex.letterIgnoringCase char || isAsciiDigit char

def isQuote (char : Char) : Bool := char == '\'' || char == '"'

/-- `^\s*-\s*(?P<event>[A-Za-z][A-Za-z0-9]+)\s+onmatch:\s*(?P<effect>include|exclude)\s+`
followed by `combine rules using ['\"](?:And|Or)['\"]`, ignoring case. -/
def ruleHeader : Regex :=
  Regex.concat
    [.greedy isSpace, .single (· == '-'), .greedy isSpace,
      .group "event" (.seq (.single Regex.letterIgnoringCase) (Regex.greedyPlus isEventPart)),
      Regex.greedyPlus isSpace, Regex.literalIgnoringCase "onmatch:", .greedy isSpace,
      .group "effect"
        (Regex.anyOf (["include", "exclude"].map Regex.literalIgnoringCase)),
      Regex.greedyPlus isSpace, Regex.literalIgnoringCase "combine rules using ",
      .single isQuote, Regex.anyOf (["And", "Or"].map Regex.literalIgnoringCase),
      .single isQuote]

/-- `^\s*Rule configuration \(version [^)]+\):\s*$`, ignoring case. -/
def ruleVersion : Regex :=
  Regex.concat
    [.greedy isSpace, Regex.literalIgnoringCase "Rule configuration (version ",
      Regex.greedyPlus (· != ')'), Regex.literalIgnoringCase "):", .greedy isSpace, .lineEnd]

/-- `^\s+(?P<field>[^:]+?)\s+filter:\s*.+?\s+value:\s*['\"]?(?P<value>.*?)['\"]?\s*$`,
ignoring case. -/
def sysmonFilter : Regex :=
  Regex.concat
    [Regex.greedyPlus isSpace, .group "field" (Regex.reluctantPlus (· != ':')),
      Regex.greedyPlus isSpace, Regex.literalIgnoringCase "filter:", .greedy isSpace,
      Regex.reluctantPlus Regex.anyButNewline, Regex.greedyPlus isSpace,
      Regex.literalIgnoringCase "value:", .greedy isSpace, Regex.optional isQuote,
      .group "value" (.reluctant Regex.anyButNewline), Regex.optional isQuote,
      .greedy isSpace, .lineEnd]

/-- The text of a raised `ValueError`. -/
structure ValueError where
  message : String
deriving DecidableEq, Repr

/-- `Effect(text)`. -/
def effectOf (text : Text) : Except ValueError Effect :=
  if text = "include".toList then .ok .included
  else if text = "exclude".toList then .ok .excluded
  else .error ⟨pyRepr text ++ " is not a valid Effect"⟩

def isRuleVersion (line : Text) : Bool := (ruleVersion.matchText line).isSome

def isNoRules (line : Text) : Bool := lower (strip line) == "no rules installed".toList

/-- The block that is open: its header and the lines that followed so far. -/
structure SysmonBlock where
  event : String
  effect : Effect
  origin : Origin
  header : Text
  body : List Text := []
  predicates : List Predicate := []

/-- The variables of `parse_sysmon_current`. -/
structure SysmonState where
  gates : List Gate := []
  rules : List Rule := []
  diagnostics : List Diagnostic := []
  inRules : Bool := false
  block : Option SysmonBlock := none

namespace SysmonState

def report (state : SysmonState) (message : String) (origin : Origin) (line : Text) :
    SysmonState :=
  { state with
    diagnostics := state.diagnostics ++ [⟨.warn, message, origin, String.ofList line⟩] }

def blockRule (block : SysmonBlock) (order : Nat) : Rule where
  effect := block.effect
  selector := .event ⟨block.event⟩
  predicates := block.predicates
  order := order
  origin := block.origin
  raw := "\n".intercalate ((block.header :: block.body).map String.ofList)

/-- Close the open block, if there is one. -/
def finish (state : SysmonState) : SysmonState :=
  match state.block with
  | none => state
  | some block =>
      { state with
        rules := state.rules ++ [blockRule block (state.rules.length + 1)]
        block := none }

end SysmonState

/-- The value of a summary line for the network connection feature. -/
def networkSummary (line : Text) : Option Text :=
  match summaryPattern.matchText line with
  | none => none
  | some captures =>
      if lower (strip (Regex.captured captures "key")) = "network connection".toList then
        some (lower (strip (Regex.captured captures "value")))
      else none

def isNetworkState (value : Text) : Bool :=
  value == "enabled".toList || value == "disabled".toList

/-- A line in front of the rule section. -/
def readSummaryLine (origin : Origin) (state : SysmonState) (line : Text) : SysmonState :=
  let read :=
    match networkSummary line with
    | none => state
    | some value =>
        if isNetworkState value then
          { state with
            gates := state.gates ++
              [⟨"sysmon.NetworkConnect.enabled", .bool (value == "enabled".toList), origin⟩] }
        else state.report "unrecognised Sysmon network-connection state" origin line
  if isNoRules line then { read with inRules := true } else read

/-- A line inside a block: a filter, a compound rule, or neither. -/
def readBlockLine (origin : Origin) (state : SysmonState) (block : SysmonBlock) (line : Text) :
    SysmonState :=
  let longer := { block with body := block.body ++ [line] }
  match sysmonFilter.matchText line with
  | some captures =>
      let field := lower (strip (Regex.captured captures "field"))
      let predicate : Predicate :=
        { field := String.ofList (field.map fun char => if char = ' ' then '_' else char)
          op := .contains
          value := String.ofList (strip (Regex.captured captures "value")) }
      { state with
        block := some { longer with predicates := block.predicates ++ [predicate] } }
  | none =>
      if containsText "compound rule".toList (lower line) then
        let predicate : Predicate :=
          { field := "compound_rule", op := .contains, value := String.ofList (strip line) }
        { state with
          block := some { longer with predicates := block.predicates ++ [predicate] } }
      else
        { state with block := some longer }.report "unrecognised sysmon -c rule syntax"
          origin line

/-- A line of the rule section. -/
def readSectionLine (origin : Origin) (state : SysmonState) (line : Text) :
    Except ValueError SysmonState :=
  match ruleHeader.matchText line with
  | some captures => do
      let effect ← effectOf (lower (Regex.captured captures "effect"))
      pure
        { state.finish with
          block := some
            { event := String.ofList (Regex.captured captures "event")
              effect := effect
              origin := origin
              header := line } }
  | none =>
      if strip line = [] ∨ isNoRules line = true then .ok state
      else
        match state.block with
        | none =>
            .ok (state.report "unrecognised sysmon -c rule configuration line" origin line)
        | some block => .ok (readBlockLine origin state block line)

/-- One round of the line loop of `parse_sysmon_current`. -/
def readSysmonLine (sourceId : String) (state : SysmonState) (numbered : Text × Nat) :
    Except ValueError SysmonState :=
  let (line, lineNumber) := numbered
  let origin := lineOrigin sourceId lineNumber
  if isRuleVersion line then .ok { state.finish with inRules := true }
  else if !state.inRules then .ok (readSummaryLine origin state line)
  else readSectionLine origin state line

def sysmonResult (state : SysmonState) : ParseResult where
  determinacy := determinacyOf state.finish.diagnostics
  gates := state.finish.gates
  rules := state.finish.rules
  diagnostics := state.finish.diagnostics

def parseSysmonCurrent (sourceId data : String) : Except ValueError ParseResult := do
  let state ← ((splitlines data.toList).zipIdx 1).foldlM (readSysmonLine sourceId) {}
  pure (sysmonResult state)

example : (parseSysmonCurrent "sysmon -c"
    (" - ProcessCreate\nRule configuration (version 4.90):\n" ++
      " - ProcessCreate onmatch: \u0131nclude combine rules using 'Or'")).toOption = none := by
  decide +kernel

end Sigmascope
