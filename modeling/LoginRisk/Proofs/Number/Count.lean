import LoginRisk.Proofs.Number.Significand

/-!
Whole numbers of at most 24 binary digits in the 32-bit format. Each has one normal form, and a sum that stays
in this range is exact.
-/

namespace LoginRisk.Number

open Float.Model Float.Model.UnpackedFloat

/-- A whole number with its digits moved up to the highest of the 24 places. -/
def wholeParts (n : ℤ) : UnpackedFloat :=
  ofParts (if n < 0 then .negative else .positive) (n.natAbs * 2 ^ (23 - n.natAbs.log2)) (n.natAbs.log2 - 23)

def whole (n : ℤ) : Float32 := .ofModel (.pack (wholeParts n))

private lemma log2_lt {m : ℕ} (hm : 0 < m) (h : m < 2 ^ 24) : m.log2 < 24 := (Nat.log2_lt hm.ne').mpr h

private lemma log2_mul_two_pow {m : ℕ} (hm : 0 < m) (k : ℕ) : (m * 2 ^ k).log2 = m.log2 + k := by
  have hk : 0 < 2 ^ k := Nat.two_pow_pos k
  refine (Nat.log2_eq_iff (Nat.mul_pos hm hk).ne').mpr ⟨?_, ?_⟩
  · rw [pow_add]
    exact Nat.mul_le_mul_right _ (Nat.log2_self_le hm.ne')
  · rw [show m.log2 + k + 1 = m.log2 + 1 + k by ring, pow_add]
    exact Nat.mul_lt_mul_of_pos_right Nat.lt_log2_self hk

/-- The last place of a whole number does not depend on how many zeros are written behind it. -/
private lemma targetExponent_whole {m : ℕ} (hm : 0 < m) (k : ℕ) :
    Format.binary32.targetExponent (totalExponent (m * 2 ^ k) (-k)) = m.log2 - 23 := by
  rw [totalExponent, log2_mul_two_pow hm]
  simp only [Format.targetExponent, Format.mantissaBits, Format.minExponent]
  omega

private lemma shiftRight_exact (m k : ℕ) :
    ExtendedMantissa.ofMantissaAndAccuracy (m * 2 ^ k) .exact >>> k =
      ExtendedMantissa.ofMantissaAndAccuracy m .exact := by
  change k.repeat ExtendedMantissa.shiftRightOne _ = _
  induction k generalizing m with
  | zero => simp [Nat.repeat]
  | succ k ih =>
    rw [Nat.repeat, pow_succ', ← mul_assoc, ih]
    simp [ExtendedMantissa.shiftRightOne, ExtendedMantissa.ofMantissaAndAccuracy]

private lemma shiftToTargetExponent_whole {m k : ℕ} (hm : 0 < m) (h : m < 2 ^ 24) (hk : 23 ≤ m.log2 + k) :
    shiftToTargetExponent .binary32 (m * 2 ^ k) (-k) .exact =
      (ExtendedMantissa.ofMantissaAndAccuracy (m * 2 ^ (23 - m.log2)) .exact, (m.log2 : ℤ) - 23) := by
  have hlog := log2_lt hm h
  obtain ⟨r, hr⟩ : ∃ r, k = 23 - m.log2 + r := ⟨k - (23 - m.log2), by omega⟩
  have hshift : (m.log2 - 23 - -(k : ℤ)).toNat = r := by omega
  rw [shiftToTargetExponent, targetExponent_whole hm]
  dsimp only [shiftToExponent]
  rw [hshift]
  congr 1
  · rw [hr, pow_add, ← mul_assoc, shiftRight_exact]
  · omega

private lemma round_whole (s : Sign) {m : ℕ} (hm : 0 < m) (h : m < 2 ^ 24) (k : ℕ) :
    UnpackedFloat.round .binary32 s (m * 2 ^ k) (-k) =
      ofParts s (m * 2 ^ (23 - m.log2)) (m.log2 - 23) := by
  have hlog := log2_lt hm h
  have hmore : decreaseExponent (m * 2 ^ k) (-k) (m.log2 - 23) =
      (m * 2 ^ max k (23 - m.log2), -((max k (23 - m.log2) : ℕ) : ℤ)) := by
    dsimp only [decreaseExponent]
    rw [Nat.shiftLeft_eq, mul_assoc, ← pow_add]
    congr 3 <;> omega
  have hfirst := shiftToTargetExponent_whole hm h (show 23 ≤ m.log2 + max k (23 - m.log2) by omega)
  have hsecond := shiftToTargetExponent_whole hm h (show 23 ≤ m.log2 + (23 - m.log2) by omega)
  have hrounded : (ExtendedMantissa.ofMantissaAndAccuracy (m * 2 ^ (23 - m.log2)) .exact).roundedMantissa =
      m * 2 ^ (23 - m.log2) := rfl
  rw [show -((23 - m.log2 : ℕ) : ℤ) = m.log2 - 23 by omega] at hsecond
  simp only [UnpackedFloat.round, targetExponent_whole hm, hmore, roundWithAccuracy, hfirst, hrounded, hsecond]
  rfl

private lemma normalize_whole {n : ℤ} (h : n.natAbs < 2 ^ 24) (k : ℕ) :
    UnpackedFloat.normalize .binary32 (n * 2 ^ k) (-k) .positive = wholeParts n := by
  have hk : (0 : ℤ) < 2 ^ k := by positivity
  rw [wholeParts]
  unfold UnpackedFloat.normalize
  rcases lt_trichotomy n 0 with hn | rfl | hn
  · have hmantissa : (-(n * 2 ^ k)).toNat = n.natAbs * 2 ^ k := by
      have hcast : ((n.natAbs * 2 ^ k : ℕ) : ℤ) = -(n * 2 ^ k) := by
        push_cast
        rw [abs_of_neg hn, neg_mul]
      rw [← hcast, Int.toNat_natCast]
    rw [Int.compare_eq_lt.mpr (mul_neg_of_neg_of_pos hn hk), if_pos hn]
    dsimp only
    rw [hmantissa, round_whole .negative (by omega) h]
  · rw [zero_mul]
    rfl
  · have hmantissa : (n * 2 ^ k).toNat = n.natAbs * 2 ^ k := by
      have hcast : ((n.natAbs * 2 ^ k : ℕ) : ℤ) = n * 2 ^ k := by
        push_cast
        rw [abs_of_pos hn]
      rw [← hcast, Int.toNat_natCast]
    rw [Int.compare_eq_gt.mpr (mul_pos hn hk), if_neg hn.not_gt]
    dsimp only
    rw [hmantissa, round_whole .positive (by omega) h]

private lemma unpack_whole {n : ℤ} (h : n.natAbs < 2 ^ 24) : (whole n).toModel.unpack = wholeParts n := by
  rcases eq_or_ne n 0 with rfl | hn
  · rfl
  have hpos : 0 < n.natAbs := Int.natAbs_pos.mpr hn
  have hlog := log2_lt hpos h
  have hlow : 2 ^ 23 ≤ n.natAbs * 2 ^ (23 - n.natAbs.log2) := by
    calc 2 ^ 23 = 2 ^ n.natAbs.log2 * 2 ^ (23 - n.natAbs.log2) := by
          rw [← pow_add]
          congr 1
          omega
      _ ≤ _ := Nat.mul_le_mul_right _ (Nat.log2_self_le hpos.ne')
  have hhigh : n.natAbs * 2 ^ (23 - n.natAbs.log2) < 2 ^ 24 := by
    calc n.natAbs * 2 ^ (23 - n.natAbs.log2) < 2 ^ (n.natAbs.log2 + 1) * 2 ^ (23 - n.natAbs.log2) :=
          Nat.mul_lt_mul_of_pos_right Nat.lt_log2_self (Nat.two_pow_pos _)
      _ = 2 ^ 24 := by
          rw [← pow_add]
          congr 1
          omega
  change UnpackedFloat.unpack .binary32 (UnpackedFloat.pack .binary32 (wholeParts n)) = wholeParts n
  rw [wholeParts, ofParts, dif_neg (by omega)]
  have hbias : (Format.binary32.exponentBias : ℤ) = 127 := rfl
  exact unpack_pack_normal _ _ hlow hhigh (by omega) (by norm_num; omega)

private lemma exists_wholeParts {n : ℤ} (hn : n ≠ 0) (h : n.natAbs < 2 ^ 24) :
    ∃ s m e, ∃ hm : 0 < m, wholeParts n = .finite s m e hm ∧ -23 ≤ e ∧ e ≤ 0 ∧
      ∀ k : ℕ, -k ≤ e → s.apply (decreaseExponent m e (-k)).1 = n * 2 ^ k := by
  have hpos : 0 < n.natAbs := Int.natAbs_pos.mpr hn
  have hlog := log2_lt hpos h
  have hm : n.natAbs * 2 ^ (23 - n.natAbs.log2) ≠ 0 := (Nat.mul_pos hpos (Nat.two_pow_pos _)).ne'
  refine ⟨_, _, _, Nat.pos_of_ne_zero hm, dif_neg hm, by omega, by omega, fun k hk => ?_⟩
  have hdigits : (decreaseExponent (n.natAbs * 2 ^ (23 - n.natAbs.log2)) (n.natAbs.log2 - 23) (-k)).1 =
      n.natAbs * 2 ^ k := by
    dsimp only [decreaseExponent]
    rw [Nat.shiftLeft_eq, mul_assoc, ← pow_add]
    congr 2
    omega
  rw [hdigits]
  push_cast
  rcases lt_or_gt_of_ne hn with hneg | hneg
  · rw [if_pos hneg, Sign.apply, abs_of_neg hneg]
    ring
  · rw [if_neg hneg.not_gt, Sign.apply, abs_of_pos hneg]

private lemma add_wholeParts {m n : ℤ} (hm : m.natAbs < 2 ^ 24) (hn : n.natAbs < 2 ^ 24)
    (h : (m + n).natAbs < 2 ^ 24) :
    UnpackedFloat.add .binary32 (wholeParts m) (wholeParts n) = wholeParts (m + n) := by
  rcases eq_or_ne m 0 with rfl | hm0
  · rcases eq_or_ne n 0 with rfl | hn0
    · rfl
    · obtain ⟨s, d, e, hd, hparts, -⟩ := exists_wholeParts hn0 hn
      rw [zero_add, hparts]
      rfl
  rcases eq_or_ne n 0 with rfl | hn0
  · obtain ⟨s, d, e, hd, hparts, -⟩ := exists_wholeParts hm0 hm
    rw [add_zero, hparts]
    rfl
  obtain ⟨s, d, e, hd, hparts, hlow, hhigh, happly⟩ := exists_wholeParts hm0 hm
  obtain ⟨s', d', e', hd', hparts', hlow', hhigh', happly'⟩ := exists_wholeParts hn0 hn
  -- Both are written with the same number of places behind the point.
  obtain ⟨k, hk⟩ : ∃ k : ℕ, min e e' = -k := ⟨(-(min e e')).toNat, by omega⟩
  rw [hparts, hparts']
  dsimp only [UnpackedFloat.add]
  rw [hk, happly k (by omega), happly' k (by omega), ← add_mul, normalize_whole h]

/-- Whole numbers are added exactly. -/
theorem whole_add_whole {m n : ℤ} (hm : m.natAbs < 2 ^ 24) (hn : n.natAbs < 2 ^ 24)
    (h : (m + n).natAbs < 2 ^ 24) : whole m + whole n = whole (m + n) := by
  change Float32.ofModel (.pack (UnpackedFloat.add .binary32 (whole m).toModel.unpack (whole n).toModel.unpack)) =
    .ofModel (.pack (wholeParts (m + n)))
  rw [unpack_whole hm, unpack_whole hn, add_wholeParts hm hn h]

lemma whole_zero : whole 0 = 0.0 := rfl

lemma whole_one : whole 1 = 1.0 := rfl

lemma whole_neg_one : whole (-1) = -1.0 := rfl

end LoginRisk.Number
