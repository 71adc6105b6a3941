import LoginRisk.Monitor.Metrics
import LoginRisk.Proofs.Profile.Recency

/-!
What each kind of note changes in the metrics: the counts of requests, the counts of one stage, or the error
history, which holds the last errors up to its size.
-/

namespace LoginRisk

lemma PerStage.get_modify {α : Type} (p : PerStage α) (f : α → α) (s stage : Stage) :
    (p.modify f s).get stage = if s = stage then f (p.get stage) else p.get stage := by
  cases s <;> cases stage <;> rfl

structure RequestCounts where
  total : ℕ
  successful : ℕ
  failed : ℕ
  cacheHits : ℕ

/-- How often a stage has run, and how often it was replaced by its fallback, and how often so by a timeout. -/
structure StageCounts where
  invocations : ℕ
  fallbacks : ℕ
  timeouts : ℕ

def StageCounters.counts (c : StageCounters) : StageCounts := ⟨c.invocations, c.fallbacks, c.timeouts⟩

def FallbackReason.isTimeout : FallbackReason → Bool
  | .timeout _ => true
  | _ => false

namespace Metrics

variable {s : MetricsSettings} {m : Metrics}

def requests (m : Metrics) : RequestCounts := ⟨m.total, m.successful, m.failed, m.cacheHits⟩

lemma counts_countRun (r : StageReport) (c : StageCounters) :
    (countRun r c).counts =
      { invocations := c.invocations + 1
        fallbacks := c.fallbacks + if r.fallback.isSome then 1 else 0
        timeouts := c.timeouts + if r.fallback.any FallbackReason.isTimeout then 1 else 0 } := by
  obtain ⟨stage, elapsedMs, fallback⟩ := r
  cases fallback with
  | none => rfl
  | some reason => cases reason <;> rfl

lemma requests_recordStage (m : Metrics) (r : StageReport) : (m.recordStage r).requests = m.requests := by
  unfold recordStage
  split <;> rfl

lemma errors_recordStage (m : Metrics) (r : StageReport) : (m.recordStage r).errors = m.errors := by
  unfold recordStage
  split <;> rfl

lemma stages_recordStage (m : Metrics) (r : StageReport) (stage : Stage) :
    (m.recordStage r).stages.get stage =
      if r.stage = stage then
        if r.fallback = some .disabled then m.stages.get stage else countRun r (m.stages.get stage)
      else m.stages.get stage := by
  unfold recordStage
  by_cases hdisabled : r.fallback = some .disabled
  · simp only [if_pos hdisabled, ite_self]
  · simp only [if_neg hdisabled, PerStage.get_modify]

lemma errors_recordError {known : List ErrorRecord} (h : m.errors = known.rtake (max s.errorHistorySize 1))
    (e : PipelineError) (requestId : Option String) (now : Instant) :
    (m.recordError s e requestId now).errors =
      (known ++ [ErrorRecord.mk now e requestId]).rtake (max s.errorHistorySize 1) := by
  rw [← pushBounded_rtake, ← h]
  rfl

end Metrics

end LoginRisk
