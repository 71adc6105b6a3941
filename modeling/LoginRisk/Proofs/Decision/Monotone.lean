import LoginRisk.Proofs.Decision.Reach

/-!
Stronger signs against an attempt never lower its score. Products with a weight and sums preserve the order of
floating-point numbers, and so do the cuts at a threshold and at one.
-/

namespace LoginRisk

open Number

lemma clampUnit_mono {x y : Float} (hx : x.isFinite = true) (hy : y.isFinite = true) (h : x ≤ y) :
    clampUnit x ≤ clampUnit y := by
  obtain ⟨-, hlow, hhigh⟩ := (isUnit_iff _).mp (isUnit_clampUnit x)
  obtain ⟨-, hlow', hhigh'⟩ := (isUnit_iff _).mp (isUnit_clampUnit y)
  by_cases h0 : x < 0.0
  · rw [clampUnit, if_pos hx, if_pos h0]
    exact hlow'
  by_cases h1 : 1.0 < y
  · have hone : clampUnit y = 1.0 := by
      have hnot : ¬y < 0.0 := not_float_lt_of_le (float_le_trans (by decide) (float_le_of_lt h1))
      rw [clampUnit, if_pos hy, if_neg hnot, if_pos h1]
    rw [hone]
    exact hhigh
  · have hn := isNaN_of_isFinite hx
    have hn' := isNaN_of_isFinite hy
    have hx0 := float_le_of_not_lt hn rfl h0
    have hy1 := float_le_of_not_lt rfl hn' h1
    rw [clampUnit_of_isUnit ((isUnit_iff x).mpr ⟨hx, hx0, float_le_trans h hy1⟩),
      clampUnit_of_isUnit ((isUnit_iff y).mpr ⟨hy, float_le_trans hx0 h, hy1⟩)]
    exact h

namespace RiskLevel

lemma rank_ofScore_mono {x y : Float} (h : x ≤ y) : (ofScore x).rank ≤ (ofScore y).rank := by
  have hbelow {limit : Float} (hx : ¬x < limit) : ¬y < limit := fun hy => hx (float_lt_of_le_of_lt h hy)
  unfold ofScore
  by_cases hmedium : x < 0.30
  · rw [if_pos hmedium]
    exact Nat.zero_le _
  rw [if_neg hmedium, if_neg (hbelow hmedium)]
  by_cases hhigh : x < 0.60
  · rw [if_pos hhigh]
    split_ifs <;> decide
  rw [if_neg hhigh, if_neg (hbelow hhigh)]
  by_cases hcritical : x < 0.95
  · rw [if_pos hcritical]
    split_ifs <;> decide
  rw [if_neg hcritical, if_neg (hbelow hcritical)]

end RiskLevel

namespace Decision

structure Evidence where
  credential : CredentialFindings
  embedding : EmbeddingFindings
  behavior : BehaviorFindings
  threat : ThreatFindings

namespace Evidence

def clamp (v : Evidence) : Evidence := ⟨v.credential.clamp, v.embedding.clamp, v.behavior.clamp, v.threat.clamp⟩

def score (s : ScoringSettings) (v : Evidence) : Except AggregationError Float :=
  aggregate s v.credential v.embedding v.behavior v.threat

/-- No sign against the attempt is stronger in `v` than in `w`. -/
structure Le (v w : Evidence) : Prop where
  similarity : v.credential.similarity ≤ w.credential.similarity
  suspicious : v.credential.anySuspicious = true → w.credential.anySuspicious = true
  attackSimilarity : v.embedding.attackSimilarity ≤ w.embedding.attackSimilarity
  outlier : v.embedding.outlierScore ≤ w.embedding.outlierScore
  time : v.behavior.timeDeviation ≤ w.behavior.timeDeviation
  location : v.behavior.locationDeviation ≤ w.behavior.locationDeviation
  device : v.behavior.deviceDeviation ≤ w.behavior.deviceDeviation
  frequency : v.behavior.frequencyAnomaly ≤ w.behavior.frequencyAnomaly
  reputation : v.threat.ipReputation ≤ w.threat.ipReputation
  patterns : v.threat.knownPatterns.length ≤ w.threat.knownPatterns.length
  bias : v.behavior.calibrationBias ≤ w.behavior.calibrationBias

instance : LE Evidence := ⟨Le⟩

def products (s : ScoringSettings) (v : Evidence) : List Float :=
  Decision.products s v.credential v.embedding v.behavior v.threat

end Evidence

lemma within_mul_mul {v v' w : Float} (hv : isUnit v = true) (hv' : isUnit v' = true) (h : v ≤ v')
    (hw : isWeight w = true) : Within (v * w) (v' * w) := by
  have hbig := within_mul hv' hw
  have hvf := isFinite_of_isUnit hv
  have hvf' := isFinite_of_isUnit hv'
  obtain ⟨hwf, hw0⟩ := (isWeight_iff w).mp hw
  rw [← exact_le_exact_iff hvf hvf'] at h
  rw [← exact_le_exact_iff rfl hwf, exact_zero] at hw0
  refine ⟨(within_mul hv hw).nonneg, (isRounding_mul hvf hwf).mono (isRounding_mul hvf' hwf) ?_, hbig.isFinite⟩
  exact mul_le_mul_of_nonneg_right h hw0

lemma isUnit_notableSimilarity (s : ScoringSettings) (c : CredentialFindings) :
    isUnit (notableSimilarity s c.clamp) = true := by
  rw [notableSimilarity]
  split
  · exact isUnit_clampUnit _
  · rfl

lemma notableSimilarity_mono (s : ScoringSettings) {c c' : CredentialFindings}
    (h : c.clamp.similarity ≤ c'.clamp.similarity) :
    notableSimilarity s c.clamp ≤ notableSimilarity s c'.clamp := by
  by_cases hreach : s.credentialSimilarityThreshold ≤ c.clamp.similarity
  · rw [notableSimilarity, notableSimilarity, if_pos hreach, if_pos (float_le_trans hreach h)]
    exact h
  · rw [notableSimilarity, if_neg hreach]
    exact ((isUnit_iff _).mp (isUnit_notableSimilarity s c')).2.1

lemma patternSignal_mono {t t' : ThreatFindings} (h : t.knownPatterns.length ≤ t'.knownPatterns.length) :
    patternSignal t ≤ patternSignal t' := by
  have hlength : Float.ofNat t.knownPatterns.length ≤ Float.ofNat t'.knownPatterns.length :=
    (isRounding_ofNat _).mono (isRounding_ofNat _) (by exact_mod_cast h)
  have hhalf := half_mono (ofNat_nonneg _) hlength
  obtain ⟨-, -, hone⟩ := (isUnit_iff _).mp (isUnit_patternSignal t)
  by_cases hmany : 1.0 < Float.ofNat t'.knownPatterns.length / 2.0
  · rw [patternSignal.eq_def t', if_pos hmany]
    exact hone
  · have hle := float_le_of_not_lt rfl ((float_le_iff _ _).mp hhalf).2.1 hmany
    have hfew : ¬1.0 < Float.ofNat t.knownPatterns.length / 2.0 := not_float_lt_of_le (float_le_trans hhalf hle)
    rw [patternSignal, patternSignal, if_neg hmany, if_neg hfew]
    exact hhalf

/-- Each product is at most the one of the stronger sign. -/
lemma Evidence.products_within {s : ScoringSettings} (hw : ∀ w ∈ s.weights, isWeight w.2 = true) {v v' : Evidence}
    (h : v.clamp ≤ v'.clamp) : List.Forall₂ Within (v.clamp.products s) (v'.clamp.products s) := by
  simp only [ScoringSettings.weights, List.mem_cons, List.not_mem_nil, or_false, forall_eq_or_imp,
    forall_eq] at hw
  obtain ⟨h₁, h₂, h₃, h₄, h₅, h₆, h₇, h₈, h₉, h₁₀⟩ := hw
  have hflag (b : Bool) : isUnit (if b then 1.0 else 0.0) = true := by cases b <;> rfl
  have hflags : (if v.clamp.credential.anySuspicious then 1.0 else 0.0 : Float) ≤
      if v'.clamp.credential.anySuspicious then 1.0 else 0.0 := by
    by_cases hfirst : v.clamp.credential.anySuspicious = true
    · rw [if_pos hfirst, if_pos (h.suspicious hfirst)]
      decide
    · rw [if_neg hfirst]
      exact ((isUnit_iff _).mp (hflag _)).2.1
  have hunit {x : Float} : isUnit (clampUnit x) = true := isUnit_clampUnit x
  exact .cons (within_mul_mul (isUnit_notableSimilarity s _) (isUnit_notableSimilarity s _)
      (notableSimilarity_mono s h.similarity) h₁)
    (.cons (within_mul_mul (hflag _) (hflag _) hflags h₂)
    (.cons (within_mul_mul hunit hunit h.attackSimilarity h₃) (.cons (within_mul_mul hunit hunit h.outlier h₄)
    (.cons (within_mul_mul hunit hunit h.time h₅) (.cons (within_mul_mul hunit hunit h.location h₆)
    (.cons (within_mul_mul hunit hunit h.device h₇) (.cons (within_mul_mul hunit hunit h.frequency h₈)
    (.cons (within_mul_mul hunit hunit h.reputation h₉)
    (.cons (within_mul_mul (isUnit_patternSignal _) (isUnit_patternSignal _) (patternSignal_mono h.patterns) h₁₀)
      .nil)))))))))

lemma Evidence.score_eq_ok {s : ScoringSettings} {v : Evidence} {x : Float} (h : v.score s = .ok x) :
    v.behavior.calibrationBias.isFinite = true ∧ (v.behavior.calibrationBias * 1.0).isFinite = true ∧
      ((v.products s).foldl (· + ·) 0.0 + v.behavior.calibrationBias * 1.0).isFinite = true ∧
      x = clampUnit ((v.products s).foldl (· + ·) 0.0 + v.behavior.calibrationBias * 1.0) := by
  obtain ⟨hnot, hx⟩ := (aggregate_eq_ok_iff _ _ _ _ _ _).mp h
  obtain ⟨hproducts, hsum⟩ := (not_overflows_iff _).mp hnot
  have hbias : (⟨"calibration_bias", v.behavior.calibrationBias, 1.0⟩ : Term) ∈
      terms s v.credential v.embedding v.behavior v.threat := by
    simp [terms]
  have hproduct := hproducts _ hbias
  rw [Term.product] at hproduct
  rw [total_terms] at hx hsum
  exact ⟨bias_isFinite_of_not_overflows hnot, hproduct, hsum, hx⟩

/-- Where both have a score, that of the stronger evidence is at least that of the weaker, and its level is no
lower. The bias is part of the evidence and may be of either sign. -/
theorem score_mono {s : ScoringSettings} (hw : ∀ w ∈ s.weights, isWeight w.2 = true) {v v' : Evidence}
    (h : v.clamp ≤ v'.clamp) {x x' : Float} (hx : v.clamp.score s = .ok x) (hx' : v'.clamp.score s = .ok x') :
    x ≤ x' ∧ (RiskLevel.ofScore x).rank ≤ (RiskLevel.ofScore x').rank := by
  obtain ⟨hb, hbias, hsum, rfl⟩ := Evidence.score_eq_ok hx
  obtain ⟨hb', hbias', hsum', rfl⟩ := Evidence.score_eq_ok hx'
  have hzero : Within 0.0 0.0 := ⟨by decide, by decide, rfl⟩
  have hsigns := within_foldl_add hzero (Evidence.products_within hw h) (isFinite_left_of_add hsum')
  have hoffset : v.clamp.behavior.calibrationBias * 1.0 ≤ v'.clamp.behavior.calibrationBias * 1.0 := by
    refine (isRounding_mul hb rfl).mono (isRounding_mul hb' rfl) ?_
    rw [exact_one, mul_one, mul_one]
    exact (exact_le_exact_iff hb hb').mpr h.bias
  have hscore := clampUnit_mono hsum hsum'
    (float_add_le_add hsigns.isFinite hsigns.bound_isFinite hbias hbias' hsigns.le hoffset)
  exact ⟨hscore, RiskLevel.rank_ofScore_mono hscore⟩

/-- A similarity just below the threshold, one known pattern, and a bias in favour of the user. -/
def mildEvidence : Evidence where
  credential := { CredentialFindings.fallback with similarity := 0.69 }
  embedding := { EmbeddingFindings.fallback with outlierScore := 0.5 }
  behavior := { BehaviorFindings.fallback with deviceDeviation := 0.2, calibrationBias := -0.05 }
  threat := { ThreatFindings.fallback with ipReputation := 0.6, knownPatterns := ["tor_exit"] }

/-- The same attempt with a similarity that counts, more patterns than count, and a score out of its range. -/
def harshEvidence : Evidence where
  credential := { CredentialFindings.fallback with
    email := { FieldFeatures.neutral with suspicious := true }
    similarity := 0.7 }
  embedding := { EmbeddingFindings.fallback with outlierScore := 7.0 }
  behavior := { BehaviorFindings.fallback with deviceDeviation := 0.2, calibrationBias := 0.1 }
  threat := { ThreatFindings.fallback with
    ipReputation := 0.8
    knownPatterns := ["tor_exit", "brute_force", "credential_stuffing"] }

theorem harsh_scores_above_mild : ∃ x x', mildEvidence.clamp.score {} = .ok x ∧ harshEvidence.clamp.score {} = .ok x' ∧
    x ≤ x' ∧ (RiskLevel.ofScore x).rank ≤ (RiskLevel.ofScore x').rank := by
  have hmild := (aggregate_eq_ok_iff {} mildEvidence.clamp.credential mildEvidence.clamp.embedding
    mildEvidence.clamp.behavior mildEvidence.clamp.threat _).mpr ⟨by decide +kernel, rfl⟩
  have hharsh := (aggregate_eq_ok_iff {} harshEvidence.clamp.credential harshEvidence.clamp.embedding
    harshEvidence.clamp.behavior harshEvidence.clamp.threat _).mpr ⟨by decide +kernel, rfl⟩
  have hle : mildEvidence.clamp ≤ harshEvidence.clamp :=
    ⟨by decide +kernel, by decide +kernel, by decide +kernel, by decide +kernel, by decide +kernel,
      by decide +kernel, by decide +kernel, by decide +kernel, by decide +kernel, by decide +kernel,
      by decide +kernel⟩
  exact ⟨_, _, hmild, hharsh, score_mono (by decide +kernel) hle hmild hharsh⟩

end Decision

end LoginRisk
