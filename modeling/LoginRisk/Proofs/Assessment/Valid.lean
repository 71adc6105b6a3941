import LoginRisk.Proofs.Number.Order

/-!
The rules that every assessment keeps, as one proposition beside the check that looks for the first
rule broken, and the two ways of keeping them: by clamped findings, and by the fallback.
-/

namespace LoginRisk

section Clamped

@[simp] lemma CredentialFindings.clamp_clamp (c : CredentialFindings) : c.clamp.clamp = c.clamp := by
  simp [clamp, FieldFeatures.clamp]

@[simp] lemma EmbeddingFindings.clamp_clamp (e : EmbeddingFindings) : e.clamp.clamp = e.clamp := by
  simp [clamp]

@[simp] lemma BehaviorFindings.clamp_clamp (b : BehaviorFindings) : b.clamp.clamp = b.clamp := by
  simp [clamp]

@[simp] lemma ThreatFindings.clamp_clamp (t : ThreatFindings) : t.clamp.clamp = t.clamp := by
  simp [clamp]

end Clamped

namespace Assessment

structure Valid (r : Assessment) : Prop where
  leading : ∀ s ∈ r.leadingScores, isUnit s.2 = true
  bias : r.behavior.calibrationBias.isFinite = true
  trailing : ∀ s ∈ r.trailingScores, isUnit s.2 = true
  level : r.level = RiskLevel.ofScore r.score
  block : r.shouldBlock = true ↔ r.level = .critical
  actions : r.actions ≠ []

lemma firstOutOfRange_eq_none_iff (scores : List (String × Float)) :
    firstOutOfRange scores = none ↔ ∀ s ∈ scores, isUnit s.2 = true := by
  simp [firstOutOfRange]

private lemma orElse_eq_none_iff {α : Type} (a : Option α) (b : Unit → Option α) :
    a.orElse b = none ↔ a = none ∧ b () = none := by
  cases a <;> simp [Option.orElse]

/-- No rule is found broken exactly when all of them are kept. -/
theorem firstFault_eq_none_iff (r : Assessment) : r.firstFault = none ↔ r.Valid := by
  simp only [firstFault, orElse_eq_none_iff, firstOutOfRange_eq_none_iff]
  constructor
  · rintro ⟨hl, hb, ht, hr⟩
    split at hr
    · cases hr
    · rename_i hlevel
      split at hr
      · cases hr
      · rename_i hblock
        split at hr
        · cases hr
        · rename_i hactions
          refine ⟨hl, ?_, ht, ?_, ?_, ?_⟩
          · simpa using hb
          · simpa using Eq.symm (not_not.mp hlevel)
          · simpa using hblock
          · simpa using hactions
  · rintro ⟨hl, hb, ht, hlevel, hblock, hactions⟩
    refine ⟨hl, by simp [hb], ht, ?_⟩
    rw [if_neg (by simp [hlevel]), if_neg (by simp [hblock]), if_neg (by simpa using hactions)]

lemma isValid_iff (r : Assessment) : r.isValid = true ↔ r.Valid := by
  rw [isValid, Option.isNone_iff_eq_none, firstFault_eq_none_iff]

lemma findings_isUnit_of_clamp (r : Assessment) {c : CredentialFindings} {e : EmbeddingFindings}
    {b : BehaviorFindings} {t : ThreatFindings} (hscore : isUnit r.score = true)
    (hconfidence : isUnit r.confidence = true) (hc : r.credential = c.clamp)
    (he : r.embedding = e.clamp) (hb : r.behavior = b.clamp) (ht : r.threat = t.clamp) :
    (∀ s ∈ r.leadingScores, isUnit s.2 = true) ∧ ∀ s ∈ r.trailingScores, isUnit s.2 = true := by
  simp [leadingScores, trailingScores, hc, he, hb, ht, CredentialFindings.clamp,
    FieldFeatures.clamp, EmbeddingFindings.clamp, BehaviorFindings.clamp, ThreatFindings.clamp,
    hscore, hconfidence, isUnit_clampUnit]

lemma fallbackScore_low (score : Float) :
    isUnit (fallbackScore score) = true ∧ RiskLevel.ofScore (fallbackScore score) = .low := by
  have hmost : (0.30 - 1e-6 : Float) < 0.30 := by decide
  have hunit := isUnit_clampUnit score
  have heq : fallbackScore score =
      if 0.30 - 1e-6 < clampUnit score then 0.30 - 1e-6 else clampUnit score := rfl
  rw [heq]
  split
  · exact ⟨by decide, by decide⟩
  · rename_i hle
    refine ⟨hunit, ?_⟩
    have hn := Number.isNaN_of_isFinite ((isUnit_iff _).mp hunit).1
    have hlow := Number.float_lt_of_le_of_lt
      (Number.float_le_of_not_lt (by decide) hn hle) hmost
    rw [RiskLevel.ofScore, if_pos hlow]

/-- The fallback keeps the rules, whatever score is configured for it. -/
theorem fallback_valid (requestId : String) (score processingMs : Float) (now : Instant) :
    (fallback requestId score processingMs now).Valid := by
  obtain ⟨hunit, hlevel⟩ := fallbackScore_low score
  have hconfidence : isUnit fallbackConfidence = true := by decide
  have hzero : isUnit 0.0 = true := by decide
  have hone : isUnit 1.0 = true := by decide
  have hbias : (0.0 : Float).isFinite = true := by decide
  refine ⟨?_, hbias, ?_, hlevel.symm, by simp [fallback], by simp [fallback]⟩
  · simp [leadingScores, fallback, CredentialFindings.fallback, FieldFeatures.neutral,
      EmbeddingFindings.fallback, BehaviorFindings.fallback, hunit, hconfidence, hzero, hone]
  · simp [trailingScores, fallback, ThreatFindings.fallback, hzero]

end Assessment

end LoginRisk
