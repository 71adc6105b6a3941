import LoginRisk.Assessment.Basic

/-!
The answer when the pipeline itself fails: the attempt passes at low risk, but a person has to look at
it.
-/

namespace LoginRisk.Assessment

def fallbackConfidence : Float := 0.1

def fallbackScore (score : Float) : Float :=
  let most := 0.30 - 1e-6
  let unit := clampUnit score
  if most < unit then most else unit

def reviewAction : Action :=
  ((Action.make .manualReview 1
    "Risk analysis unavailable; review this login manually").withParameter
      "reason" "pipeline_failure").needsReview

/-- The answer to a request when the pipeline fails. -/
def fallback (requestId : String) (score processingMs : Float) (now : Instant) : Assessment :=
  { requestId
    score := fallbackScore score
    level := .low
    shouldBlock := false
    requiresSecondFactor := false
    actions := [reviewAction]
    confidence := fallbackConfidence
    feedbackRequired := true
    credential := .fallback
    embedding := .fallback
    behavior := .fallback
    threat := .fallback
    reports := Stage.all.map fun stage => ⟨stage, 0.0, some .pipelineFailure⟩
    processingMs
    timestamp := now }

end LoginRisk.Assessment
