import Sigmascope.Model

/-!
The collected state of a Windows host. The service control manager, the event
log and the audit policy interfaces are outside the program; what they answer
arrives here as data.
-/

namespace Sigmascope

set_option autoImplicit false

structure ChannelConfig where
  enabled : Option Bool
  error : Option CollectionError := none
deriving DecidableEq, Repr

structure SysmonCollection where
  installed : Option Bool
  running : Option Bool
  currentConfig : Option (List UInt8)
  errors : List CollectionError := []
deriving DecidableEq, Repr

structure NativeAuditPolicy where
  states : List (String × String)
  error : Option CollectionError := none
deriving DecidableEq, Repr

structure AuditpolCliCollection where
  parsed : Option ParseResult
  error : Option CollectionError := none
deriving DecidableEq

/-- `_POLICY_STATES` with the fallback of `policy_state`. -/
def policyState (flags : Nat) : String :=
  match flags with
  | 0 => "unchanged"
  | 1 => "success"
  | 2 => "failure"
  | 3 => "both"
  | 4 => "none"
  | other => "unknown:" ++ toString other

end Sigmascope
