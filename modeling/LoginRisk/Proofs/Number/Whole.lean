import LoginRisk.Proofs.Number.Exact

/-!
The whole part of a floating-point number as a machine word, and a number rounded up to a whole one.
-/

namespace LoginRisk.Number

open Float.Model Float.Model.UnpackedFloat

lemma roundToInt_positive (m : ℕ) (e : ℤ) : roundToInt .positive m e = ⌊(m : ℚ) * 2 ^ e⌋ := by
  have hvalue := decreaseExponent_value m e 0
  have hexponent : (decreaseExponent m e 0).2 ≤ 0 := by
    simp only [decreaseExponent]
    omega
  obtain ⟨k, hk⟩ := Int.eq_ofNat_of_zero_le (neg_nonneg.mpr hexponent)
  have hshift := ((represents_natCast (decreaseExponent m e 0).1).shiftRight k).floor
  rw [← hvalue, roundToInt]
  dsimp only [shiftToExponent]
  rw [zero_sub, hk, Int.toNat_natCast, Sign.apply, ← hshift, show (decreaseExponent m e 0).2 = -k by omega,
    zpow_neg, zpow_natCast, div_eq_mul_inv]

lemma toNat_toUInt64 {x : Float} (hx : x.isFinite = true) (h0 : 0.0 ≤ x) (h : exact x < 2 ^ 64) :
    (x.toUInt64.toNat : ℤ) = ⌊exact x⌋ := by
  rw [← exact_le_exact_iff rfl hx, exact_zero] at h0
  have hfloor : toInt 0 (UInt64.size - 1) x.toModel.unpack = ⌊exact x⌋ := by
    change x.toModel.unpack.isFinite = true at hx
    rw [exact] at h0 ⊢
    generalize x.toModel.unpack = a at hx h0
    rcases a with _ | _ | _ | ⟨_ | _, m, e, hm⟩
    · cases hx
    · cases hx
    · rfl
    · exact absurd h0 (not_le.mpr (value_negative m e hm))
    · rw [toInt, roundToInt_positive]
      rfl
  have hnonneg : 0 ≤ ⌊exact x⌋ := Int.floor_nonneg.mpr h0
  have hlt : ⌊exact x⌋ < 2 ^ 64 := Int.floor_lt.mpr (by exact_mod_cast h)
  have hsize : ⌊exact x⌋.toNat < UInt64.size := by
    rw [UInt64.size]
    omega
  change ((UInt64.ofNatClamp (toInt 0 (UInt64.size - 1) x.toModel.unpack).toNat).toNat : ℤ) = _
  rw [hfloor, UInt64.ofNatClamp, dif_pos hsize, UInt64.toNat_ofNatLT, Int.toNat_of_nonneg hnonneg]

/-- One more than the whole part, unless nothing is left over, is the number rounded up. -/
lemma ceil_eq {x : Float} (hx : x.isFinite = true) (h0 : 0.0 ≤ x) (h : exact x < 2 ^ 53) :
    (if Float.ofNat x.toUInt64.toNat < x then x.toUInt64.toNat + 1 else x.toUInt64.toNat) = ⌈exact x⌉₊ := by
  have hwhole := toNat_toUInt64 hx h0 (h.trans (by norm_num))
  generalize x.toUInt64.toNat = n at hwhole
  obtain ⟨hle, hlt⟩ := Int.floor_eq_iff.mp hwhole.symm
  rw [Int.cast_natCast] at hle hlt
  have hn : n < 2 ^ 53 := by exact_mod_cast hle.trans_lt h
  have hover := exact_lt_exact_iff (isFinite_ofNat (hn.trans (by decide))) hx
  rw [exact_ofNat hn] at hover
  split_ifs with hless <;> rw [← hover] at hless
  · refine ((Nat.ceil_eq_iff n.succ_ne_zero).mpr ⟨by simpa using hless, ?_⟩).symm
    push_cast
    exact hlt.le
  · rw [le_antisymm (not_lt.mp hless) hle, Nat.ceil_natCast]

end LoginRisk.Number
