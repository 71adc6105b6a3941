import LoginRisk.Pipeline.Analyze
import Mathlib.Tactic.Lemma

/-!
What the four stages report, whatever the analyzers do: each report names its stage and says why the
stage ran on its fallback, and no stage blames the whole pipeline.
-/

namespace LoginRisk

structure StageRun.Reported {α : Type} (stage : Stage) (run : StageRun α) : Prop where
  stage : run.report.stage = stage
  fallback : run.report.fallback = run.outcome.reason
  reason : run.outcome.reason ≠ some .pipelineFailure

namespace StageRun

lemma reported_disabled {α : Type} (stage : Stage) (fallback : α) :
    (disabled stage fallback).Reported stage := by
  constructor <;> simp [disabled, StageOutcome.reason]

lemma reported_ofTask {α : Type} (stage : Stage) (budgetMs : Nat) (fallback : α)
    (task : StageTask α) : (ofTask stage budgetMs fallback task).Reported stage := by
  refine ⟨rfl, rfl, ?_⟩
  dsimp only [ofTask, outcomeOf]
  split
  · simp [StageOutcome.reason]
  · split <;> simp [StageOutcome.reason]

end StageRun

namespace Pipeline

variable {σ : Type}

lemma reported_runStage {α : Type} (stage : Stage) (enabled : Bool) (budgetMs : Nat) (fallback : α)
    (work : σ → σ × StageTask α) (s : σ) :
    (runStage stage enabled budgetMs fallback work s).2.1.Reported stage := by
  unfold runStage
  split
  · exact StageRun.reported_disabled stage fallback
  · split
    · constructor <;> simp [StageOutcome.reason]
    · exact StageRun.reported_ofTask stage budgetMs fallback _

lemma runStage_keeps {α : Type} {P : σ → Prop} {stage : Stage} {enabled : Bool} {budgetMs : Nat}
    {fallback : α} {work : σ → σ × StageTask α} {s : σ} (hwork : P s → P (work s).1) (h : P s) :
    P (runStage stage enabled budgetMs fallback work s).1 := by
  unfold runStage
  split
  · exact h
  · split
    · exact h
    · exact hwork h

lemma runStage_completed {α : Type} {stage : Stage} {enabled : Bool} {budgetMs : Nat} {fallback a : α}
    {work : σ → σ × StageTask α} {s : σ}
    (h : (runStage stage enabled budgetMs fallback work s).2.1.outcome = .completed a) :
    (work s).2.ending = .value a ∧
    (runStage stage enabled budgetMs fallback work s).1 = (work s).1 := by
  unfold runStage at h ⊢
  split at h
  · cases h
  · rename_i henabled
    rw [if_neg henabled]
    split at h
    · cases h
    · rename_i hbudget
      rw [if_neg hbudget]
      dsimp only [StageRun.ofTask, StageRun.outcomeOf] at h ⊢
      split at h
      · cases h
      · split at h
        · rename_i value hvalue
          cases h
          exact ⟨hvalue, rfl⟩
        · cases h
        · cases h

end Pipeline

structure StageRuns.Reported (runs : StageRuns) : Prop where
  credential : runs.credential.Reported .credential
  embedding : runs.embedding.Reported .embedding
  anomaly : runs.anomaly.Reported .anomaly
  threat : runs.threat.Reported .threat

namespace StageRuns

lemma Reported.stages {runs : StageRuns} (h : runs.Reported) :
    runs.reports.map StageReport.stage = Stage.all := by
  simp [reports, Stage.all, h.credential.stage, h.embedding.stage, h.anomaly.stage, h.threat.stage]

lemma Reported.not_pipelineFailure {runs : StageRuns} (h : runs.Reported) :
    ∀ report ∈ runs.reports, report.fallback ≠ some .pipelineFailure := by
  intro report hr
  simp only [reports, List.mem_cons, List.not_mem_nil, or_false] at hr
  rcases hr with rfl | rfl | rfl | rfl
  · exact h.credential.fallback ▸ h.credential.reason
  · exact h.embedding.fallback ▸ h.embedding.reason
  · exact h.anomaly.fallback ▸ h.anomaly.reason
  · exact h.threat.fallback ▸ h.threat.reason

end StageRuns

namespace Pipeline

variable {σ : Type}

/-- Whatever the analyzers do, the stages report in order. -/
theorem reported_runStages (settings : Settings) (A : Analyzers σ) (profiles : ProfileStore)
    (now : Instant) (a : Attempt) (s : σ) :
    (runStages settings A profiles now a s).2.1.Reported := by
  constructor <;> simp only [runStages] <;> exact reported_runStage ..

end Pipeline

end LoginRisk
