import LoginRisk.Proofs.Decision.Aggregate
import LoginRisk.Proofs.Number.Exact
import LoginRisk.Proofs.Settings.Validate

/-!
Which accepted settings give every attempt a score. No single product is too large, so that a score is
missing only where the sum is, and whether that can happen is seen from the sum of the weights.
-/

namespace LoginRisk

open Number

structure Within (x bound : Float) : Prop where
  nonneg : 0.0 ≤ x
  le : x ≤ bound
  bound_isFinite : bound.isFinite = true

lemma Within.isFinite {x y : Float} (h : Within x y) : x.isFinite = true :=
  isFinite_of_le_of_le rfl h.bound_isFinite h.nonneg h.le

lemma isFinite_of_foldl_add {sum : Float} {xs : List Float}
    (h : (xs.foldl (· + ·) sum).isFinite = true) : sum.isFinite = true := by
  induction xs generalizing sum with
  | nil => exact h
  | cons x xs ih => exact isFinite_left_of_add (ih h)

lemma Within.add {sum sum' x y : Float} (hsum : Within sum sum') (h : Within x y)
    (hf : (sum' + y).isFinite = true) : Within (sum + x) (sum' + y) := by
  have hle := float_add_le_add hsum.isFinite hsum.bound_isFinite h.isFinite h.bound_isFinite hsum.le h.le
  refine ⟨?_, hle, hf⟩
  have hsum' := (exact_le_exact_iff rfl hsum.isFinite).mpr hsum.nonneg
  have hx' := (exact_le_exact_iff rfl h.isFinite).mpr h.nonneg
  rw [exact_zero] at hsum' hx'
  refine (isRounding_exact rfl).mono (isRounding_add hsum.isFinite h.isFinite) ?_
  rw [exact_zero]
  exact add_nonneg hsum' hx'

/-- A sum of smaller numbers is finite where that of the larger ones is. -/
lemma within_foldl_add {sum sum' : Float} {xs ys : List Float} (hsum : Within sum sum')
    (h : List.Forall₂ Within xs ys) (hf : (ys.foldl (· + ·) sum').isFinite = true) :
    Within (xs.foldl (· + ·) sum) (ys.foldl (· + ·) sum') := by
  induction h generalizing sum sum' with
  | nil => exact hsum
  | cons hxy _ ih => exact ih (hsum.add hxy (isFinite_of_foldl_add hf)) hf

lemma within_mul {v w : Float} (hv : isUnit v = true) (hw : isWeight w = true) :
    Within (v * w) w := by
  obtain ⟨hvf, hv0, hv1⟩ := (isUnit_iff v).mp hv
  obtain ⟨hwf, hw0⟩ := (isWeight_iff w).mp hw
  rw [← exact_le_exact_iff rfl hvf, exact_zero] at hv0
  rw [← exact_le_exact_iff hvf rfl, exact_one] at hv1
  rw [← exact_le_exact_iff rfl hwf, exact_zero] at hw0
  have hmul := isRounding_mul hvf hwf
  refine ⟨(isRounding_exact rfl).mono hmul ?_, hmul.mono (isRounding_exact hwf) ?_, hwf⟩
  · rw [exact_zero]
    exact mul_nonneg hv0 hw0
  · exact mul_le_of_le_one_left hw0 hv1

lemma within_zero_mul {w : Float} (hw : isWeight w = true) : Within (0.0 * w) 0.0 := by
  have hmul := isRounding_mul (x := 0.0) rfl ((isWeight_iff w).mp hw).1
  exact ⟨(within_mul rfl hw).nonneg, hmul.mono (isRounding_exact rfl) (by simp), rfl⟩

lemma within_mul_of_eq_one {v w : Float} (hv : v = 1.0) (hw : isWeight w = true) :
    Within w (v * w) := by
  subst hv
  obtain ⟨hwf, hw0⟩ := (isWeight_iff w).mp hw
  have hmul := isRounding_mul (x := 1.0) rfl hwf
  refine ⟨hw0, (isRounding_exact hwf).mono hmul (by simp), ?_⟩
  exact (within_mul (v := 1.0) rfl hw).isFinite

/-- The most that each signal can add. The similarity never shows where its threshold is above one. -/
def ScoringSettings.reach (s : ScoringSettings) : List Float := [
  if s.credentialSimilarityThreshold ≤ 1.0 then s.credentialSimilarityWeight else 0.0,
  s.suspiciousPatternWeight, s.attackSimilarityWeight, s.outlierWeight, s.timeDeviationWeight,
  s.locationDeviationWeight, s.deviceDeviationWeight, s.frequencyWeight, s.ipReputationWeight,
  s.knownPatternWeight]

def ScoringSettings.fullSum (s : ScoringSettings) : Float := s.reach.foldl (· + ·) 0.0

namespace Decision

lemma isUnit_patternSignal (t : ThreatFindings) : isUnit (patternSignal t) = true := by
  have hnonneg : 0.0 ≤ Float.ofNat t.knownPatterns.length / 2.0 := by
    refine half_nonneg ((isRounding_exact rfl).mono (isRounding_ofNat _) ?_)
    simp
  rw [patternSignal]
  split
  · rfl
  · rename_i hlt
    have hle := float_le_of_not_lt rfl ((float_le_iff _ _).mp hnonneg).2.1 hlt
    exact (isUnit_iff _).mpr ⟨isFinite_of_le_of_le rfl rfl hnonneg hle, hnonneg, hle⟩

def products (s : ScoringSettings) (c : CredentialFindings) (e : EmbeddingFindings)
    (b : BehaviorFindings) (t : ThreatFindings) : List Float :=
  (terms s c e b t).dropLast.map Term.product

lemma total_terms (s : ScoringSettings) (c : CredentialFindings) (e : EmbeddingFindings)
    (b : BehaviorFindings) (t : ThreatFindings) :
    total 0.0 (terms s c e b t) =
      (products s c e b t).foldl (· + ·) 0.0 + b.calibrationBias * 1.0 :=
  rfl

lemma within_notableSimilarity {s : ScoringSettings} (c : CredentialFindings)
    (hw : isWeight s.credentialSimilarityWeight = true) :
    Within (notableSimilarity s c.clamp * s.credentialSimilarityWeight)
      (if s.credentialSimilarityThreshold ≤ 1.0 then s.credentialSimilarityWeight else 0.0) := by
  have hunit : isUnit c.clamp.similarity = true := isUnit_clampUnit _
  rw [notableSimilarity]
  split
  · rename_i hnotable
    have hthreshold := float_le_trans hnotable ((isUnit_iff _).mp hunit).2.2
    rw [if_pos hthreshold]
    exact within_mul hunit hw
  · split
    · exact within_mul rfl hw
    · exact within_zero_mul hw

lemma products_within_reach {s : ScoringSettings} (h : ∀ w ∈ s.weights, isWeight w.2 = true)
    (c : CredentialFindings) (e : EmbeddingFindings) (b : BehaviorFindings) (t : ThreatFindings) :
    List.Forall₂ Within (products s c.clamp e.clamp b.clamp t.clamp) s.reach := by
  simp only [ScoringSettings.weights, List.mem_cons, List.not_mem_nil, or_false, forall_eq_or_imp,
    forall_eq] at h
  obtain ⟨h₁, h₂, h₃, h₄, h₅, h₆, h₇, h₈, h₉, h₁₀⟩ := h
  have hflag : isUnit (if c.clamp.anySuspicious then 1.0 else 0.0) = true := by split <;> rfl
  exact .cons (within_notableSimilarity c h₁) (.cons (within_mul hflag h₂)
    (.cons (within_mul (isUnit_clampUnit _) h₃) (.cons (within_mul (isUnit_clampUnit _) h₄)
    (.cons (within_mul (isUnit_clampUnit _) h₅) (.cons (within_mul (isUnit_clampUnit _) h₆)
    (.cons (within_mul (isUnit_clampUnit _) h₇) (.cons (within_mul (isUnit_clampUnit _) h₈)
    (.cons (within_mul (isUnit_clampUnit _) h₉)
    (.cons (within_mul (isUnit_patternSignal _) h₁₀) .nil)))))))))

def loudCredential : CredentialFindings :=
  { CredentialFindings.fallback with
    email := { FieldFeatures.neutral with suspicious := true }
    similarity := 1.0 }

def loudEmbedding : EmbeddingFindings :=
  { EmbeddingFindings.fallback with attackSimilarity := 1.0, outlierScore := 1.0 }

def loudBehavior : BehaviorFindings :=
  { BehaviorFindings.fallback with
    timeDeviation := 1.0
    locationDeviation := 1.0
    deviceDeviation := 1.0
    frequencyAnomaly := 1.0 }

def loudThreat : ThreatFindings :=
  { ThreatFindings.fallback with ipReputation := 1.0, knownPatterns := ["brute_force", "tor_exit"] }

lemma reach_within_loud {s : ScoringSettings} (h : ∀ w ∈ s.weights, isWeight w.2 = true) :
    List.Forall₂ Within s.reach (products s loudCredential.clamp loudEmbedding.clamp
      loudBehavior.clamp loudThreat.clamp) := by
  simp only [ScoringSettings.weights, List.mem_cons, List.not_mem_nil, or_false, forall_eq_or_imp,
    forall_eq] at h
  obtain ⟨h₁, h₂, h₃, h₄, h₅, h₆, h₇, h₈, h₉, h₁₀⟩ := h
  have hclamp : clampUnit 1.0 = 1.0 := clampUnit_of_isUnit rfl
  have hpattern : patternSignal loudThreat.clamp = 1.0 := by decide +kernel
  have hsimilarity : Within
      (if s.credentialSimilarityThreshold ≤ 1.0 then s.credentialSimilarityWeight else 0.0)
      (notableSimilarity s loudCredential.clamp * s.credentialSimilarityWeight) := by
    have hone : loudCredential.clamp.similarity = 1.0 := hclamp
    rw [notableSimilarity, hone]
    split
    · exact within_mul_of_eq_one rfl h₁
    · have hzero := within_mul (v := 0.0) rfl h₁
      exact ⟨by decide, hzero.nonneg, hzero.isFinite⟩
  exact .cons hsimilarity (.cons (within_mul_of_eq_one rfl h₂)
    (.cons (within_mul_of_eq_one hclamp h₃) (.cons (within_mul_of_eq_one hclamp h₄)
    (.cons (within_mul_of_eq_one hclamp h₅) (.cons (within_mul_of_eq_one hclamp h₆)
    (.cons (within_mul_of_eq_one hclamp h₇) (.cons (within_mul_of_eq_one hclamp h₈)
    (.cons (within_mul_of_eq_one hclamp h₉) (.cons (within_mul_of_eq_one hpattern h₁₀) .nil)))))))))

lemma isFinite_of_forall₂ {xs ys : List Float} (h : List.Forall₂ Within xs ys) :
    ∀ x ∈ xs, x.isFinite = true := by
  induction h with
  | nil => simp
  | cons hxy _ ih => exact List.forall_mem_cons.mpr ⟨hxy.isFinite, ih⟩

lemma mem_terms {s : ScoringSettings} {c : CredentialFindings} {e : EmbeddingFindings}
    {b : BehaviorFindings} {t : ThreatFindings} {u : Term} (h : u ∈ terms s c e b t) :
    u.product ∈ products s c e b t ∨ u.product = b.calibrationBias * 1.0 := by
  have hterms : terms s c e b t =
      (terms s c e b t).dropLast ++ [⟨"calibration_bias", b.calibrationBias, 1.0⟩] := rfl
  rw [hterms, List.mem_append, List.mem_singleton] at h
  rcases h with h | rfl
  · exact .inl (List.mem_map_of_mem h)
  · exact .inr rfl

lemma bias_product {x : Float} (hlow : -1.0 ≤ x) (hhigh : x ≤ 1.0) :
    -1.0 ≤ x * 1.0 ∧ x * 1.0 ≤ 1.0 ∧ (x * 1.0).isFinite = true := by
  have hx : x.isFinite = true := isFinite_of_le_of_le rfl rfl hlow hhigh
  have hmul := isRounding_mul hx (y := 1.0) rfl
  rw [exact_one, mul_one] at hmul
  have h₁ := float_le_trans hlow ((isRounding_exact hx).mono hmul le_rfl)
  have h₂ := float_le_trans (hmul.mono (isRounding_exact hx) le_rfl) hhigh
  exact ⟨h₁, h₂, isFinite_of_le_of_le rfl rfl h₁ h₂⟩

lemma isFinite_add_bias {sum most x : Float} (hsum : Within sum most) (hlow : -1.0 ≤ x)
    (hhigh : x ≤ 1.0) : (sum + x).isFinite = true := by
  have hx : x.isFinite = true := isFinite_of_le_of_le rfl rfl hlow hhigh
  have hlargest : sum ≤ largest := le_largest hsum.isFinite
  have h₁ := float_add_le_add (x := 0.0) rfl hsum.isFinite rfl hx hsum.nonneg hlow
  have h₂ := float_add_le_add hsum.isFinite rfl hx rfl hlargest hhigh
  exact isFinite_of_le_of_le (by decide +kernel) (by decide +kernel) h₁ h₂

section Scored

variable {s : ScoringSettings} (hw : ∀ w ∈ s.weights, isWeight w.2 = true) (c : CredentialFindings)
  (e : EmbeddingFindings) {b : BehaviorFindings} (t : ThreatFindings) (hlow : -1.0 ≤ b.calibrationBias)
  (hhigh : b.calibrationBias ≤ 1.0)

include hw hlow hhigh

lemma product_isFinite : ∀ u ∈ terms s c.clamp e.clamp b.clamp t.clamp, u.product.isFinite = true := by
  intro u hu
  rcases mem_terms hu with hu | hu
  · exact isFinite_of_forall₂ (products_within_reach hw c e b t) _ hu
  · rw [hu]
    exact (bias_product hlow hhigh).2.2

/-- No attempt adds up more than all weights, and the bias is lost in a sum that is near the limit. -/
lemma not_overflows_of_fullSum (hfull : s.fullSum.isFinite = true) :
    ¬Overflows (terms s c.clamp e.clamp b.clamp t.clamp) := by
  have hzero : Within 0.0 0.0 := ⟨by decide, by decide, rfl⟩
  have hsum := within_foldl_add hzero (products_within_reach hw c e b t) hfull
  obtain ⟨hbias, hbias', -⟩ := bias_product hlow hhigh
  refine (not_overflows_iff _).mpr ⟨product_isFinite hw c e t hlow hhigh, ?_⟩
  rw [total_terms]
  exact isFinite_add_bias hsum hbias hbias'

end Scored

/-- Accepted settings never fail at a single signal, and they score every attempt exactly when the sum of
the weights is finite. -/
theorem scores_every_attempt_iff {s : Settings} (h : s.validate = .ok ()) :
    (∀ (c : CredentialFindings) (e : EmbeddingFindings) (b : BehaviorFindings) (t : ThreatFindings),
      -1.0 ≤ b.calibrationBias → b.calibrationBias ≤ 1.0 →
      ∀ u ∈ terms s.scoring c.clamp e.clamp b.clamp t.clamp, u.product.isFinite = true) ∧
    ((∀ (c : CredentialFindings) (e : EmbeddingFindings) (b : BehaviorFindings) (t : ThreatFindings),
      -1.0 ≤ b.calibrationBias → b.calibrationBias ≤ 1.0 →
      ∃ x, aggregate s.scoring c.clamp e.clamp b.clamp t.clamp = .ok x) ↔
      s.scoring.fullSum.isFinite = true) := by
  have hw := Settings.isWeight_of_validate h
  have hzero : Within 0.0 0.0 := ⟨by decide, by decide, rfl⟩
  refine ⟨fun c e b t hlow hhigh => product_isFinite hw c e t hlow hhigh, ?_, ?_⟩
  · -- The attempt with every signal at one already adds up all weights.
    intro hall
    obtain ⟨x, hx⟩ := hall loudCredential loudEmbedding loudBehavior loudThreat (by decide) (by decide)
    have hfinite := ((not_overflows_iff _).mp ((aggregate_eq_ok_iff _ _ _ _ _ _).mp hx).1).2
    rw [total_terms] at hfinite
    exact (within_foldl_add hzero (reach_within_loud hw) (isFinite_left_of_add hfinite)).isFinite
  · intro hfull c e b t hlow hhigh
    exact ⟨_, (aggregate_eq_ok_iff _ _ _ _ _ _).mpr
      ⟨not_overflows_of_fullSum hw c e t hlow hhigh hfull, rfl⟩⟩

theorem defaults_score_loud_attempt :
    Settings.validate {} = .ok () ∧
      ∃ x, aggregate (Settings.scoring {}) loudCredential.clamp loudEmbedding.clamp
        loudBehavior.clamp loudThreat.clamp = .ok x := by
  have hvalid := Settings.validate_eq_ok (s := {}) (by decide +kernel)
  exact ⟨hvalid, (scores_every_attempt_iff hvalid).2.mpr (by decide +kernel) _ _ _ _ (by decide)
    (by decide)⟩

def heavySettings : Settings :=
  { scoring := { attackSimilarityWeight := 1e308, outlierWeight := 1e308 } }

/-- Each weight is checked, but not their sum: an attempt with both signals at one has no score. -/
theorem accepted_heavy_weights_overflow :
    heavySettings.validate = .ok () ∧
      ¬∃ x, aggregate heavySettings.scoring CredentialFindings.fallback.clamp loudEmbedding.clamp
        BehaviorFindings.fallback.clamp ThreatFindings.fallback.clamp = .ok x := by
  refine ⟨Settings.validate_eq_ok (by decide +kernel), ?_⟩
  rintro ⟨x, hx⟩
  exact ((aggregate_eq_ok_iff _ _ _ _ _ _).mp hx).1 (by decide +kernel)

end Decision

end LoginRisk
