/-!
The four stages of the analysis and the reports about their runs.
-/

namespace LoginRisk

/-- A stage of the analysis. The stages do not depend on one another. -/
inductive Stage where
  | credential | embedding | anomaly | threat
  deriving DecidableEq, Repr

namespace Stage

def all : List Stage := [.credential, .embedding, .anomaly, .threat]

def component : Stage → String
  | .credential => "credential_analyzer"
  | .embedding => "embedding_analyzer"
  | .anomaly => "anomaly_detector"
  | .threat => "threat_intelligence"

def label : Stage → String
  | .credential => "credential_analysis"
  | .embedding => "behavioral_embedding"
  | .anomaly => "anomaly_detection"
  | .threat => "threat_intelligence"

end Stage

/-- Why the output of a stage was replaced by its fallback. -/
inductive FallbackReason where
  | timeout (budgetMs : Nat)
  | failure (message : String)
  | panicked
  | disabled
  /-- The whole pipeline fell back; the stage may never have run. -/
  | pipelineFailure
  deriving DecidableEq, Repr

def FallbackReason.text : FallbackReason → String
  | .timeout budgetMs => "timed out after " ++ toString budgetMs ++ "ms"
  | .failure message => "failed: " ++ message
  | .panicked => "panicked"
  | .disabled => "disabled"
  | .pipelineFailure => "pipeline failure"

structure StageReport where
  stage : Stage
  elapsedMs : Float
  /-- `none` when the stage completed. -/
  fallback : Option FallbackReason

def StageReport.isFallback (r : StageReport) : Bool := r.fallback.isSome

end LoginRisk
