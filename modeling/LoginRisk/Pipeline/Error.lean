import LoginRisk.Pipeline.Task

/-!
Failures inside the pipeline. They are kept in the error history and never reach the caller.
-/

namespace LoginRisk

inductive PipelineError where
  | componentTimeout (stage : Stage) (budgetMs : Nat)
  | componentFailure (stage : Stage) (message : String)
  | aggregation (message : String)
  | cacheCorruption (message : String)
  deriving DecidableEq, Repr

namespace PipelineError

def message : PipelineError → String
  | .componentTimeout stage budgetMs =>
    stage.component ++ " exceeded its " ++ toString budgetMs ++ "ms budget"
  | .componentFailure stage message => stage.component ++ " failed: " ++ message
  | .aggregation message => "risk aggregation failed: " ++ message
  | .cacheCorruption message => "cached result rejected: " ++ message

def kind : PipelineError → String
  | .componentTimeout .. => "component_timeout"
  | .componentFailure .. => "component_failure"
  | .aggregation _ => "aggregation_failure"
  | .cacheCorruption _ => "cache_corruption"

def component : PipelineError → String
  | .componentTimeout stage _ | .componentFailure stage _ => stage.component
  | .aggregation _ => "orchestrator"
  | .cacheCorruption _ => "cache"

/-- The error that a fallback stands for. A stage that is switched off is no error. -/
def ofFallback? (stage : Stage) : FallbackReason → Option PipelineError
  | .timeout budgetMs => some (.componentTimeout stage budgetMs)
  | .failure message => some (.componentFailure stage message)
  | .panicked => some (.componentFailure stage "analyzer panicked")
  | .disabled | .pipelineFailure => none

def ofRun? {α : Type} (run : StageRun α) : Option PipelineError :=
  run.outcome.reason.bind (ofFallback? run.report.stage)

end PipelineError

end LoginRisk
