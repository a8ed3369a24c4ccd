import Mathlib.Data.Finset.Basic
import Mathlib.Order.Defs.LinearOrder
import Mathlib.Order.Basic

/-!
The data model shared by collectors, parsers and evaluators. A rule selects
either system calls on a filter list or one event type; a parse result says
whether its rules and gates may be relied upon.
-/

namespace Sigmascope

set_option autoImplicit false

structure CollectionError where
  sourceId : String
  message : String
  resource : String
deriving DecidableEq, Repr

structure Origin where
  resource : String
  locator : String
deriving DecidableEq, Repr

inductive Determinacy where
  | effective
  | unknown
deriving DecidableEq, Repr

/-- The three kinds of value that a gate carries. -/
inductive GateValue where
  | str (text : String)
  | int (number : Int)
  | bool (flag : Bool)
deriving DecidableEq, Repr

namespace GateValue

/-- `str(value)`. -/
def toText : GateValue → String
  | .str text => text
  | .int number => toString number
  | .bool true => "True"
  | .bool false => "False"

/-- `value == 0`, which holds of the number zero and of `False`. -/
def eqZero : GateValue → Bool
  | .str _ => false
  | .int number => number == 0
  | .bool flag => !flag

end GateValue

structure Gate where
  key : String
  value : GateValue
  origin : Origin
deriving DecidableEq, Repr

inductive PredicateOp where
  | eq
  | ne
  | lt
  | le
  | gt
  | ge
  | bitand
  | bitest
  | contains
deriving DecidableEq, Repr

structure Predicate where
  field : String
  op : PredicateOp
  value : String
deriving DecidableEq, Repr

inductive Effect where
  | included
  | excluded
deriving DecidableEq, Repr

structure SyscallSelector where
  syscalls : Finset String
  scope : String
deriving DecidableEq

structure EventTypeSelector where
  eventType : String
deriving DecidableEq

inductive Selector where
  | syscall (selector : SyscallSelector)
  | event (selector : EventTypeSelector)
deriving DecidableEq

structure Rule where
  effect : Effect
  selector : Selector
  predicates : List Predicate
  order : Nat
  origin : Origin
  raw : String
deriving DecidableEq

inductive Severity where
  | warn
  | error
deriving DecidableEq, Repr

structure Diagnostic where
  severity : Severity
  message : String
  origin : Origin
  raw : String
deriving DecidableEq, Repr

structure ParseResult where
  determinacy : Determinacy
  gates : List Gate := []
  rules : List Rule := []
  diagnostics : List Diagnostic := []
deriving DecidableEq

/-- The determinacy every parser ends with: one diagnostic makes the whole result unknown. -/
def determinacyOf (diagnostics : List Diagnostic) : Determinacy :=
  if diagnostics = [] then .effective else .unknown

theorem determinacy_unknown_iff (diagnostics : List Diagnostic) :
    determinacyOf diagnostics = .unknown ↔ diagnostics ≠ [] := by
  by_cases clean : diagnostics = [] <;> simp [determinacyOf, clean]

inductive Verdict where
  | covered
  | degraded
  | notCovered
  | indeterminate
deriving DecidableEq, Repr

namespace Verdict

def value : Verdict → String
  | .covered => "covered"
  | .degraded => "degraded"
  | .notCovered => "not_covered"
  | .indeterminate => "indeterminate"

def satisfied (verdict : Verdict) : Bool := verdict == .covered

end Verdict

/-- The predicates of a rule on one field. -/
def Rule.predicatesOn (rule : Rule) (field : String) : List Predicate :=
  rule.predicates.filter fun item => item.field == field

/-- The rule is a system call rule on the named filter list. -/
def Rule.onList (rule : Rule) (scope : String) : Bool :=
  match rule.selector with
  | .syscall selector => selector.scope == scope
  | .event _ => false

end Sigmascope
