import RegressionDetection.Policy.Engine

/-! Composition of local execution with the gate decision. -/

namespace RegressionDetection.Execution

open Foundation Specification Providers Policy

structure LocalEvaluationReport where
  run : LocalRunResult
  gate : GateDecision
deriving DecidableEq

/-- The part of `execute_local_evaluation` after the run. -/
def reportOf (environment : Environment) (specification : EvaluationSpecification)
    (run : LocalRunResult) : Except PyError LocalEvaluationReport := do
  let gate ← aggregateAndDecide environment.runtime specification.val run
  return { run, gate }

def executeLocalEvaluation (environment : Environment) (provider : Provider σ)
    (specification : EvaluationSpecification) (cancelled : Nat → Bool) (start : σ) :
    Except PyError (LocalEvaluationReport × σ) := do
  let (run, later) ← executeLocal environment provider specification cancelled start
  let report ← reportOf environment specification run
  return (report, later)

/-- The report of a one-case run that passed or failed. -/
def gradedReport (passed : Bool) : LocalEvaluationReport where
  run := gradedRun passed
  gate := (aggregateAndDecide Runtime.ascii (plainDocument "Say ok" ["first"] {})
    (gradedRun passed)).toOption.get (by cases passed <;> decide)

end RegressionDetection.Execution
