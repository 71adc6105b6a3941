import LoginRisk.Proofs.Number.Significand

/-!
Sums, products and quotients of floating-point numbers are the exact results, rounded correctly. They
preserve order for that reason, and a result between two finite numbers is finite.
-/

namespace LoginRisk.Number

open Float.Model Float.Model.UnpackedFloat

@[simp] lemma value_zero (s : Sign) : value (.zero s) = 0 := rfl

private lemma value_finite (s : Sign) (m : ℕ) (e : ℤ) (hm : 0 < m) :
    value (.finite s m e hm) = (s.apply 1 : ℤ) * (m * 2 ^ e) := by
  cases s <;> simp [value, Sign.apply]

lemma roundsTo_zero (s : Sign) : RoundsTo (.zero s) 0 := ⟨trivial, by simp⟩

lemma decreaseExponent_value (m : ℕ) (e t : ℤ) :
    ((decreaseExponent m e t).1 : ℚ) * 2 ^ (decreaseExponent m e t).2 = m * 2 ^ e := by
  simp only [decreaseExponent, Nat.shiftLeft_eq, Nat.cast_mul, Nat.cast_pow, Nat.cast_ofNat]
  rw [← zpow_natCast, mul_assoc, ← zpow_add₀ two_ne_zero]
  congr 2
  omega

private lemma decreaseExponent_precise {m : ℕ} {e : ℤ} (hm : 0 < m) :
    Precise (decreaseExponent m e (Format.binary64.targetExponent (totalExponent m e))).1
      (decreaseExponent m e (Format.binary64.targetExponent (totalExponent m e))).2 := by
  rw [targetExponent_binary64, totalExponent]
  generalize ht : max ((m.log2 : ℤ) + 1 + e - 53) (-1074) = t
  simp only [decreaseExponent, Nat.shiftLeft_eq]
  obtain ⟨k, hk⟩ : ∃ k : ℕ, (e - t).toNat = k := ⟨_, rfl⟩
  rw [hk]
  by_cases hsub : e - k ≤ -1074
  · exact .inr hsub
  · refine .inl ?_
    have hlog : 52 ≤ m.log2 + k := by omega
    calc 2 ^ 52 ≤ 2 ^ (m.log2 + k) := Nat.pow_le_pow_right two_pos hlog
      _ = 2 ^ m.log2 * 2 ^ k := pow_add 2 _ _
      _ ≤ m * 2 ^ k := Nat.mul_le_mul_right _ (Nat.log2_self_le hm.ne')

lemma roundsTo_round (s : Sign) {m : ℕ} (e : ℤ) (hm : 0 < m) :
    RoundsTo (UnpackedFloat.round .binary64 s m e) ((s.apply 1 : ℤ) * (m * 2 ^ e)) := by
  have hvalue := decreaseExponent_value m e (Format.binary64.targetExponent (totalExponent m e))
  have hp := decreaseExponent_precise (e := e) hm
  have hpos : 0 < ((decreaseExponent m e
      (Format.binary64.targetExponent (totalExponent m e))).1 : ℚ) := by
    simp only [decreaseExponent, Nat.shiftLeft_eq]
    exact_mod_cast Nat.mul_pos hm (Nat.two_pow_pos _)
  rw [← hvalue]
  exact roundsTo_roundWithAccuracy s hpos (represents_natCast _) hp

lemma roundsTo_normalize (n : ℤ) (e : ℤ) :
    RoundsTo (UnpackedFloat.normalize .binary64 n e .positive) (n * 2 ^ e) := by
  unfold UnpackedFloat.normalize
  rcases lt_trichotomy n 0 with hn | rfl | hn
  · have h := roundsTo_round .negative (m := (-n).toNat) e (by omega)
    have hcast : (((-n).toNat : ℕ) : ℚ) = -n := by exact_mod_cast Int.toNat_of_nonneg (by omega)
    rw [Int.compare_eq_lt.mpr hn]
    simpa [Sign.apply, hcast] using h
  · simpa using roundsTo_zero .positive
  · have h := roundsTo_round .positive (m := n.toNat) e (by omega)
    have hcast : ((n.toNat : ℕ) : ℚ) = n := by exact_mod_cast Int.toNat_of_nonneg hn.le
    rw [Int.compare_eq_gt.mpr hn]
    simpa [Sign.apply, hcast] using h

private lemma apply_decreaseExponent (s : Sign) (m : ℕ) {e t : ℤ} (h : t ≤ e) :
    ((s.apply ((decreaseExponent m e t).1 : ℕ) : ℤ) : ℚ) * 2 ^ t = (s.apply m : ℤ) * 2 ^ e := by
  have hvalue := decreaseExponent_value m e t
  have hexp : (decreaseExponent m e t).2 = t := by
    simp only [decreaseExponent]
    omega
  rw [hexp] at hvalue
  cases s with
  | negative => simp only [Sign.apply, Int.cast_neg, Int.cast_natCast, neg_mul, hvalue]
  | positive => simpa only [Sign.apply, Int.cast_natCast] using hvalue

lemma roundsTo_add {a b : UnpackedFloat} (ha : Canonical a) (hb : Canonical b) :
    RoundsTo (UnpackedFloat.add .binary64 a b) (value a + value b) := by
  cases a with
  | infinity _ | notANumber => exact ha.elim
  | zero s =>
    cases b with
    | infinity _ | notANumber => exact hb.elim
    | zero s' =>
      rw [value_zero, value_zero, add_zero]
      cases s <;> cases s' <;> exact roundsTo_zero _
    | finite s' m' e' hm' =>
      rw [value_zero, zero_add]
      exact roundsTo_value hb
  | finite s m e hm =>
    cases b with
    | infinity _ | notANumber => exact hb.elim
    | zero s' =>
      rw [value_zero, add_zero]
      exact roundsTo_value ha
    | finite s' m' e' hm' =>
      have h := roundsTo_normalize (s.apply ((decreaseExponent m e (min e e')).1 : ℕ) +
        s'.apply ((decreaseExponent m' e' (min e e')).1 : ℕ)) (min e e')
      rw [Int.cast_add, add_mul, apply_decreaseExponent s m (min_le_left e e'),
        apply_decreaseExponent s' m' (min_le_right e e')] at h
      exact h

private lemma Canonical.precise_mul {s s' : Sign} {m m' : ℕ} {e e' : ℤ} {hm : 0 < m} {hm' : 0 < m'}
    (ha : Canonical (.finite s m e hm)) (hb : Canonical (.finite s' m' e' hm')) :
    Precise (m * m') (e + e') := by
  obtain ⟨-, -, ha⟩ := ha
  obtain ⟨-, -, hb⟩ := hb
  rcases ha with ha | ha
  · exact .inl (ha.trans (Nat.le_mul_of_pos_right m hm'))
  · rcases hb with hb | hb
    · exact .inl (hb.trans (Nat.le_mul_of_pos_left m' hm))
    · exact .inr (by omega)

private lemma apply_one_mul (s s' : Sign) :
    (s * s').apply 1 = s.apply 1 * s'.apply 1 := by
  cases s <;> cases s' <;> rfl

lemma roundsTo_mul {a b : UnpackedFloat} (ha : Canonical a) (hb : Canonical b) :
    RoundsTo (UnpackedFloat.mul .binary64 a b) (value a * value b) := by
  cases a with
  | infinity _ | notANumber => exact ha.elim
  | zero s =>
    rw [value_zero, zero_mul]
    cases b with
    | infinity _ | notANumber => exact hb.elim
    | zero s' | finite s' m' e' hm' => exact roundsTo_zero _
  | finite s m e hm =>
    cases b with
    | infinity _ | notANumber => exact hb.elim
    | zero s' =>
      rw [value_zero, mul_zero]
      exact roundsTo_zero _
    | finite s' m' e' hm' =>
      have hpos : (0 : ℚ) < (m * m' : ℕ) := by exact_mod_cast Nat.mul_pos hm hm'
      have h := roundsTo_roundWithAccuracy (s * s') hpos (represents_natCast _) (ha.precise_mul hb)
      have hvalue : value (.finite s m e hm) * value (.finite s' m' e' hm') =
          ((s * s').apply 1 : ℤ) * ((m * m' : ℕ) * 2 ^ (e + e')) := by
        rw [value_finite, value_finite, apply_one_mul, zpow_add₀ two_ne_zero]
        push_cast
        ring
      rw [hvalue]
      exact h

private lemma floor_natCast_div (n d : ℕ) : ⌊(n : ℚ) / d⌋ = (n / d : ℕ) := by
  simpa using Rat.floor_intCast_div_natCast n d

private lemma represents_div (n : ℕ) {d : ℕ} (hd : 0 < d) :
    Represents (.ofMantissaAndAccuracy (n / d) (accuracyOfFraction (n % d) d)) (n / d : ℚ) := by
  have hd' : (0 : ℚ) < d := by exact_mod_cast hd
  have hfract : Int.fract ((n : ℚ) / d) = (n % d : ℕ) / d := by
    have hn : (n : ℚ) = d * (n / d : ℕ) + (n % d : ℕ) := by exact_mod_cast (Nat.div_add_mod n d).symm
    rw [← Int.self_sub_floor, floor_natCast_div, Int.cast_natCast]
    field_simp
    linarith
  generalize n % d = r at hfract ⊢
  have hhalf : (1 : ℚ) / 2 ≤ r / d ↔ d ≤ 2 * r := by
    rw [div_le_div_iff₀ two_pos hd', one_mul, mul_comm]
    exact_mod_cast Iff.rfl
  have hmid : (r : ℚ) / d = 1 / 2 ↔ 2 * r = d := by
    rw [div_eq_div_iff hd'.ne' two_ne_zero, one_mul, mul_comm]
    exact_mod_cast Iff.rfl
  have hzero : (r : ℚ) / d = 0 ↔ r = 0 := by simp [hd.ne']
  unfold accuracyOfFraction
  split_ifs with hr
  · refine ⟨floor_natCast_div n d, ?_, ?_⟩ <;> rw [hfract]
    · rw [hhalf]
      simp [ExtendedMantissa.ofMantissaAndAccuracy]
      omega
    · simp [ExtendedMantissa.ofMantissaAndAccuracy, hr]
  · rcases lt_trichotomy (2 * r) d with h | h | h
    · rw [Nat.compare_eq_lt.mpr h]
      refine ⟨floor_natCast_div n d, ?_, ?_⟩ <;> rw [hfract]
      · rw [hhalf]
        simpa [ExtendedMantissa.ofMantissaAndAccuracy] using h
      · rw [ne_eq, ne_eq, hzero, hmid]
        simp [ExtendedMantissa.ofMantissaAndAccuracy, hr, h.ne]
    · rw [Nat.compare_eq_eq.mpr h]
      refine ⟨floor_natCast_div n d, ?_, ?_⟩ <;> rw [hfract]
      · rw [hhalf]
        simp [ExtendedMantissa.ofMantissaAndAccuracy, h]
      · rw [ne_eq, ne_eq, hzero, hmid]
        simp [ExtendedMantissa.ofMantissaAndAccuracy, h]
    · rw [Nat.compare_eq_gt.mpr h]
      refine ⟨floor_natCast_div n d, ?_, ?_⟩ <;> rw [hfract]
      · rw [hhalf]
        simp [ExtendedMantissa.ofMantissaAndAccuracy, h.le]
      · rw [ne_eq, ne_eq, hzero, hmid]
        simp [ExtendedMantissa.ofMantissaAndAccuracy, hr, h.ne']

private lemma apply_one_div (s s' : Sign) :
    (((s / s').apply 1 : ℤ) : ℚ) = (s.apply 1 : ℤ) / (s'.apply 1 : ℤ) := by
  cases s <;> cases s' <;> norm_num [Sign.apply] <;> rfl

private lemma divCore_eq {m m' : ℕ} (e e' : ℤ) (hm : 0 < m) (hm' : 0 < m') :
    ∃ n t, divCore .binary64 m e m' e' = (n / m', t, accuracyOfFraction (n % m') m') ∧ 0 < n ∧
      Precise (n / m') t ∧ ((n : ℚ) / m') * 2 ^ t = m * 2 ^ e / (m' * 2 ^ e') := by
  generalize ht : min (e - e')
    (max ((m.log2 : ℤ) + 1 + e - (m'.log2 + 1 + e') - 53) (-1074)) = t
  obtain ⟨k, hk⟩ := Int.eq_ofNat_of_zero_le (show 0 ≤ e - e' - t by omega)
  refine ⟨m * 2 ^ k, t, ?_, by positivity, ?_, ?_⟩
  · simp only [divCore, targetExponent_binary64, totalExponent, ht, hk, Int.toNat_natCast,
      Nat.shiftLeft_eq]
  · by_cases hmin : t ≤ -1074
    · exact .inr hmin
    · refine .inl ((Nat.le_div_iff_mul_le hm').mpr ?_)
      have hlog : 52 + (m'.log2 + 1) ≤ m.log2 + k := by omega
      calc 2 ^ 52 * m' ≤ 2 ^ 52 * 2 ^ (m'.log2 + 1) := Nat.mul_le_mul_left _ Nat.lt_log2_self.le
        _ = 2 ^ (52 + (m'.log2 + 1)) := (pow_add 2 _ _).symm
        _ ≤ 2 ^ (m.log2 + k) := Nat.pow_le_pow_right two_pos hlog
        _ = 2 ^ m.log2 * 2 ^ k := pow_add 2 _ _
        _ ≤ m * 2 ^ k := Nat.mul_le_mul_right _ (Nat.log2_self_le hm.ne')
  · have hpow : (2 : ℚ) ^ e = 2 ^ t * 2 ^ k * 2 ^ e' := by
      rw [← zpow_natCast, ← zpow_add₀ two_ne_zero, ← zpow_add₀ two_ne_zero]
      congr 1
      omega
    have hm'' : (m' : ℚ) ≠ 0 := by exact_mod_cast hm'.ne'
    rw [hpow]
    push_cast
    field_simp

lemma roundsTo_div {a b : UnpackedFloat} (ha : Canonical a) (hb : Canonical b) (hb' : value b ≠ 0) :
    RoundsTo (UnpackedFloat.div .binary64 a b) (value a / value b) := by
  cases b with
  | infinity _ | notANumber => exact hb.elim
  | zero s' => exact absurd rfl hb'
  | finite s' m' e' hm' =>
    cases a with
    | infinity _ | notANumber => exact ha.elim
    | zero s =>
      rw [value_zero, zero_div]
      exact roundsTo_zero _
    | finite s m e hm =>
      obtain ⟨n, t, hcore, hn, hp, hq⟩ := divCore_eq e e' hm hm'
      have hpos : (0 : ℚ) < n / m' := by positivity
      have h := roundsTo_roundWithAccuracy (s / s') hpos (represents_div n hm') hp
      have hvalue : value (.finite s m e hm) / value (.finite s' m' e' hm') =
          ((s / s').apply 1 : ℤ) * ((n : ℚ) / m' * 2 ^ t) := by
        rw [value_finite, value_finite, apply_one_div, hq, mul_div_mul_comm]
      rw [hvalue]
      simpa only [UnpackedFloat.div, hcore] using h

end LoginRisk.Number
