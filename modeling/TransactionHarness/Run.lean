import TransactionHarness.Lifecycle.Steps
import TransactionHarness.Scenario
/-!
# Runs

A run carries out the commands of a scenario, strictly in order, and reports. The first failure ends
it. A scenario that lacks something is refused before anything is sent.
-/

namespace TransactionHarness

variable {σ : Type}

/-- Carries out a scenario and reports. -/
def Context.runScenario (ctx : Context σ) (scenario : Scenario) : Action σ Report := do
  Action.of scenario.validate
  let l ← ctx.drive scenario.commands {}
  Action.of l.report

/-- The exchange at the start of a run. -/
def Exchange.start (world : σ) : Exchange σ := { world }

end TransactionHarness
