import Sigmascope.Evaluate.Resolver

/-!
What the two runners share: the evidence attached to a provider result, and the
three lists that a run hands to the report.
-/

namespace Sigmascope

set_option autoImplicit false

def evidenceFromRules (parsed : ParseResult) : List Evidence :=
  parsed.rules.map fun rule => ⟨rule.origin.resource, rule.origin.locator, rule.raw⟩

def evidenceFromGates (gates : List Gate) : List Evidence :=
  gates.map fun gate =>
    ⟨gate.origin.resource, gate.origin.locator, gate.key ++ "=" ++ gate.value.toText⟩

/-- The result of a parser whose input could not be read. -/
def unreadResult : ParseResult := { determinacy := .unknown }

structure RunResult where
  findings : List Finding
  diagnostics : List Diagnostic
  errors : List CollectionError

end Sigmascope
