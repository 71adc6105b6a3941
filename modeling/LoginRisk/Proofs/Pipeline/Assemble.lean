import LoginRisk.Proofs.Assessment.Valid
import LoginRisk.Proofs.Decision.Actions
import LoginRisk.Proofs.Decision.Aggregate
import LoginRisk.Proofs.Pipeline.Stages

/-!
When finished stages make an assessment: exactly when their weighted signals stay finite. Clamping
comes first, so that no unit score an analyzer answers can break a rule of the assessment.
-/

namespace LoginRisk.Pipeline

open Decision

def signals (settings : Settings) (runs : StageRuns) : List Term :=
  terms settings.scoring runs.credential.outcome.value.clamp runs.embedding.outcome.value.clamp
    runs.anomaly.outcome.value.clamp runs.threat.outcome.value.clamp

def assessed (settings : Settings) (now : Instant) (elapsedMs : Float) (a : Attempt)
    (runs : StageRuns) (score : Float) : Assessment :=
  let behavior := runs.anomaly.outcome.value.clamp
  let threat := runs.threat.outcome.value.clamp
  let decision := Decision.decide settings.scoring score (isAnonymized a threat)
  { requestId := a.requestId
    score
    level := decision.level
    shouldBlock := decision.shouldBlock
    requiresSecondFactor := decision.requiresSecondFactor
    actions := decision.actions
    confidence := confidence settings.scoring runs.mask behavior
    feedbackRequired := decision.feedbackRequired
    credential := runs.credential.outcome.value.clamp
    embedding := runs.embedding.outcome.value.clamp
    behavior
    threat
    reports := runs.reports
    processingMs := elapsedMs
    timestamp := now }

variable {settings : Settings} {now : Instant} {elapsedMs : Float} {a : Attempt} {runs : StageRuns}

lemma assessed_coherent (h : runs.Reported) (score : Float) :
    (assessed settings now elapsedMs a runs score).Coherent where
  stages := h.stages
  block := by simp [assessed, Decision.decide]
  blockAction := (any_allActions_iff rfl ..).symm
  secondFactor := by simp [assessed, Decision.decide]
  secondFactorAction := (any_allActions_iff rfl ..).symm
  sorted := allActions_sorted ..

lemma assessed_valid {score : Float} (hscore : isUnit score = true)
    (hbias : runs.anomaly.outcome.value.clamp.calibrationBias.isFinite = true) :
    (assessed settings now elapsedMs a runs score).Valid := by
  obtain ⟨hleading, htrailing⟩ := Assessment.findings_isUnit_of_clamp
    (assessed settings now elapsedMs a runs score) hscore (isUnit_clampUnit _) rfl rfl rfl rfl
  exact
    { leading := hleading
      bias := hbias
      trailing := htrailing
      level := rfl
      block := by simp [assessed, Decision.decide]
      actions := allActions_ne_nil (RiskLevel.ofScore score) _ _ _ }

def aggregated (settings : Settings) (runs : StageRuns) : Except AggregationError Float :=
  aggregate settings.scoring runs.credential.outcome.value.clamp runs.embedding.outcome.value.clamp
    runs.anomaly.outcome.value.clamp runs.threat.outcome.value.clamp

lemma assemble_eq : assemble settings now elapsedMs a runs =
    match aggregated settings runs with
    | .error e => .error (.aggregation e.message)
    | .ok score =>
      match (assessed settings now elapsedMs a runs score).firstFault with
      | some fault => .error (.aggregation fault.message)
      | none => .ok (assessed settings now elapsedMs a runs score) := by
  cases hagg : aggregated settings runs <;> rw [aggregated] at hagg <;>
    simp only [assemble, hagg] <;> rfl

def score (settings : Settings) (runs : StageRuns) : Float :=
  clampUnit (total 0.0 (signals settings runs))

/-- Without an overflow there is an assessment: the check of its rules never turns it away. -/
theorem assemble_of_not_overflows (now : Instant) (elapsedMs : Float) (a : Attempt)
    (h : ¬Overflows (signals settings runs)) :
    assemble settings now elapsedMs a runs =
      .ok (assessed settings now elapsedMs a runs (score settings runs)) ∧
    (assessed settings now elapsedMs a runs (score settings runs)).Valid := by
  have hvalid : (assessed settings now elapsedMs a runs (score settings runs)).Valid :=
    assessed_valid (isUnit_clampUnit _) (bias_isFinite_of_not_overflows h)
  have hagg : aggregated settings runs = .ok (score settings runs) :=
    (aggregate_eq_ok_iff ..).mpr ⟨h, rfl⟩
  refine ⟨?_, hvalid⟩
  rw [assemble_eq, hagg]
  dsimp only
  rw [(Assessment.firstFault_eq_none_iff _).mpr hvalid]

/-- With an overflow there is no assessment. -/
theorem assemble_of_overflows (now : Instant) (elapsedMs : Float) (a : Attempt)
    (h : Overflows (signals settings runs)) :
    ∃ e, assemble settings now elapsedMs a runs = .error e := by
  rw [assemble_eq]
  cases hagg : aggregated settings runs with
  | error e => exact ⟨_, rfl⟩
  | ok x => exact absurd h ((aggregate_eq_ok_iff ..).mp hagg).1

end LoginRisk.Pipeline

namespace LoginRisk

def StageOutcome.map {α : Type} (f : α → α) : StageOutcome α → StageOutcome α
  | .completed a => .completed (f a)
  | .fallback a reason => .fallback (f a) reason

@[simp] lemma StageOutcome.value_map {α : Type} (f : α → α) (o : StageOutcome α) :
    (o.map f).value = f o.value := by
  cases o <;> rfl

@[simp] lemma StageOutcome.isFallback_map {α : Type} (f : α → α) (o : StageOutcome α) :
    (o.map f).isFallback = o.isFallback := by
  cases o <;> rfl

/-- The stages as if every analyzer had answered unit scores where they are asked for. -/
def StageRuns.clamp (runs : StageRuns) : StageRuns where
  credential := ⟨runs.credential.outcome.map CredentialFindings.clamp, runs.credential.report⟩
  embedding := ⟨runs.embedding.outcome.map EmbeddingFindings.clamp, runs.embedding.report⟩
  anomaly := ⟨runs.anomaly.outcome.map BehaviorFindings.clamp, runs.anomaly.report⟩
  threat := ⟨runs.threat.outcome.map ThreatFindings.clamp, runs.threat.report⟩

namespace Pipeline

/-- What lies outside the unit interval makes no difference to the signals. -/
lemma signals_clamp (settings : Settings) (runs : StageRuns) :
    signals settings runs.clamp = signals settings runs := by
  simp [signals, StageRuns.clamp]

lemma assemble_clamp (settings : Settings) (now : Instant) (elapsedMs : Float) (a : Attempt)
    (runs : StageRuns) :
    assemble settings now elapsedMs a runs.clamp = assemble settings now elapsedMs a runs := by
  have hassessed : assessed settings now elapsedMs a runs.clamp =
      assessed settings now elapsedMs a runs := by
    funext score
    simp [assessed, StageRuns.clamp, StageRuns.mask, StageRuns.reports]
  have haggregated : aggregated settings runs.clamp = aggregated settings runs := by
    simp [aggregated, StageRuns.clamp]
  rw [assemble_eq, assemble_eq, haggregated, hassessed]

end Pipeline

end LoginRisk
