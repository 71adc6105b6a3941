import LoginRisk.Proofs.Number.Canonical
import LoginRisk.Proofs.Number.Rounding

/-!
The rounding of unpacked numbers is correct rounding. A mantissa with its round and sticky bits stands
for a fraction, and each shift to the right halves that fraction without losing what rounding needs.
-/

namespace LoginRisk.Number

open Float.Model Float.Model.UnpackedFloat

/-- The mantissa is the whole part, and the bits tell where the rest lies around one half. -/
structure Represents (em : ExtendedMantissa) (x : ℚ) : Prop where
  floor : ⌊x⌋ = em.mantissa
  roundBit : em.roundBit = true ↔ 1 / 2 ≤ Int.fract x
  stickyBit : em.stickyBit = true ↔ Int.fract x ≠ 0 ∧ Int.fract x ≠ 1 / 2

lemma represents_natCast (m : ℕ) : Represents (.ofMantissaAndAccuracy m .exact) m where
  floor := Int.floor_natCast m
  roundBit := by simp [ExtendedMantissa.ofMantissaAndAccuracy]
  stickyBit := by simp [ExtendedMantissa.ofMantissaAndAccuracy]

lemma Represents.floor_eq {m : ℕ} {acc : Accuracy} {x : ℚ}
    (h : Represents (.ofMantissaAndAccuracy m acc) x) : ⌊x⌋ = m := by
  rw [h.floor]
  cases acc with
  | exact => rfl
  | inexact o => cases o <;> rfl

lemma Represents.roundedMantissa {em : ExtendedMantissa} {x : ℚ} (h : Represents em x) :
    (em.roundedMantissa : ℤ) = nearestEven x := by
  obtain ⟨m, r, s⟩ := em
  obtain ⟨hfloor, hround, hsticky⟩ := h
  unfold nearestEven
  rw [hfloor]
  cases r <;> cases s <;>
    simp only [ExtendedMantissa.roundedMantissa, ExtendedMantissa.accuracy,
      Accuracy.roundToNearestEven] at hround hsticky ⊢ <;>
    split_ifs <;> grind

lemma Represents.shiftRightOne {em : ExtendedMantissa} {x : ℚ} (h : Represents em x) :
    Represents em.shiftRightOne (x / 2) := by
  have hx : x = em.mantissa + Int.fract x := by
    have := Int.floor_add_fract x
    rw [h.floor] at this
    simpa using this.symm
  have hdiv : (em.mantissa : ℚ) = 2 * (em.mantissa / 2 : ℕ) + (em.mantissa % 2 : ℕ) := by
    exact_mod_cast (Nat.div_add_mod em.mantissa 2).symm
  have h0 := Int.fract_nonneg x
  have h1 := Int.fract_lt_one x
  have hmod := Nat.mod_two_eq_zero_or_one em.mantissa
  have hbit : ((em.mantissa % 2 : ℕ) : ℚ) ≤ 1 := by exact_mod_cast (by omega : em.mantissa % 2 ≤ 1)
  have hfloor : ⌊x / 2⌋ = (em.mantissa / 2 : ℕ) := by
    rw [Int.floor_eq_iff, Int.cast_natCast]
    constructor <;> linarith [Nat.cast_nonneg (α := ℚ) (em.mantissa % 2)]
  have hfract : Int.fract (x / 2) = ((em.mantissa % 2 : ℕ) + Int.fract x) / 2 := by
    rw [← Int.self_sub_floor (x / 2), hfloor, Int.cast_natCast]
    linarith
  refine ⟨hfloor, ?_, ?_⟩
  · simp only [ExtendedMantissa.shiftRightOne, hfract, bne_iff_ne]
    rcases hmod with hm | hm <;> rw [hm] <;> push_cast <;> constructor <;> intro h <;>
      first | omega | linarith
  · simp only [ExtendedMantissa.shiftRightOne, hfract, Bool.or_eq_true, h.roundBit, h.stickyBit]
    rcases hmod with hm | hm <;> rw [hm] <;> push_cast <;> grind

lemma Represents.shiftRight {em : ExtendedMantissa} {x : ℚ} (h : Represents em x) (k : ℕ) :
    Represents (em >>> k) (x / 2 ^ k) := by
  change Represents (k.repeat ExtendedMantissa.shiftRightOne em) (x / 2 ^ k)
  induction k with
  | zero => simpa [Nat.repeat] using h
  | succ k ih =>
    rw [Nat.repeat, pow_succ, ← div_div]
    exact ih.shiftRightOne

lemma targetExponent_binary64 (k : ℤ) :
    Format.binary64.targetExponent k = max (k - 53) (-1074) := by
  simp only [Format.targetExponent, Format.mantissaBits, Format.minExponent]
  norm_num

/-- The mantissa has all digits that rounding needs, or none of them can be kept. -/
def Precise (m : ℕ) (e : ℤ) : Prop := 2 ^ 52 ≤ m ∨ e ≤ -1074

private lemma log_mul_two_zpow {m : ℕ} {x : ℚ} (e : ℤ) (hm : 0 < m) (hx : ⌊x⌋ = m) :
    Int.log 2 (x * 2 ^ e) = m.log2 + e := by
  obtain ⟨hle, hlt⟩ := Int.floor_eq_iff.mp hx
  rw [Int.cast_natCast] at hle hlt
  have hpos : 0 < x := lt_of_lt_of_le (by exact_mod_cast hm) hle
  have hlow : (2 : ℚ) ^ m.log2 ≤ m := by exact_mod_cast Nat.log2_self_le hm.ne'
  have hhigh : (m : ℚ) + 1 ≤ 2 ^ (m.log2 + 1) := by exact_mod_cast Nat.lt_log2_self
  have h₁ : (m.log2 : ℤ) + e ≤ Int.log 2 (x * 2 ^ e) := by
    refine (Int.zpow_le_iff_le_log one_lt_two (by positivity)).mp ?_
    push_cast
    rw [zpow_add₀ two_ne_zero, zpow_natCast]
    gcongr
    exact hlow.trans hle
  have h₂ : Int.log 2 (x * 2 ^ e) < (m.log2 + 1 : ℕ) + e := by
    refine (Int.lt_zpow_iff_log_lt one_lt_two (by positivity)).mp ?_
    push_cast
    rw [zpow_add₀ two_ne_zero, ← Nat.cast_succ, zpow_natCast]
    gcongr
    exact hlt.trans_le hhigh
  omega

lemma targetExponent_eq {m : ℕ} {x : ℚ} {e : ℤ} (hx : 0 < x) (hfloor : ⌊x⌋ = m)
    (hp : 0 < m ∨ e ≤ -1074) :
    Format.binary64.targetExponent (totalExponent m e) = lastDigit (x * 2 ^ e) := by
  rw [targetExponent_binary64, totalExponent, lastDigit, abs_of_pos (by positivity)]
  rcases Nat.eq_zero_or_pos m with rfl | hm
  · -- Less than one unit at an exponent below the least: no digit is kept either way.
    have hlt : x * 2 ^ e < 2 ^ e := by
      have hone : x < 1 := by simpa using (Int.floor_eq_iff.mp hfloor).2
      exact mul_lt_of_lt_one_left (by positivity) hone
    have hlog := (Int.lt_zpow_iff_log_lt one_lt_two (by positivity)).mp hlt
    rw [Nat.log2_zero]
    omega
  · rw [log_mul_two_zpow e hm hfloor]
    congr 1
    ring

private lemma exponent_le_lastDigit {m : ℕ} {x : ℚ} {e : ℤ} (hx : 0 < x) (hfloor : ⌊x⌋ = m)
    (hp : Precise m e) : e ≤ lastDigit (x * 2 ^ e) := by
  rcases hp with hm | he
  · have hlog := log_mul_two_zpow e (by omega) hfloor
    have hdigits := (Nat.le_log2 (by omega)).mpr hm
    rw [lastDigit, abs_of_pos (by positivity), hlog]
    omega
  · exact he.trans (le_max_right _ _)

def ofParts (s : Sign) (m : ℕ) (e : ℤ) : UnpackedFloat :=
  if h : m = 0 then .zero s else .finite s m e (Nat.pos_of_ne_zero h)

lemma value_ofParts (s : Sign) (m : ℕ) (e : ℤ) :
    value (ofParts s m e) = (s.apply m : ℤ) * 2 ^ e := by
  unfold ofParts
  split_ifs with h
  · subst h
    cases s <;> simp [value, Sign.apply]
  · rfl

lemma canonical_ofParts {s : Sign} {m : ℕ} {e : ℤ} (hm : m < 2 ^ 53) (he : -1074 ≤ e)
    (hlow : 2 ^ 52 ≤ m ∨ e = -1074) : Canonical (ofParts s m e) := by
  unfold ofParts
  split_ifs
  · trivial
  · exact ⟨hm, he, hlow⟩

/-- A carry out of the last place moves the number to the next exponent, and nothing is lost. -/
private lemma carry (s : Sign) {r : ℕ} {t : ℤ} (hr : r ≤ 2 ^ 53) (ht : -1074 ≤ t)
    (hlow : 2 ^ 52 ≤ r ∨ t = -1074) :
    ∃ m e, shiftToTargetExponent .binary64 r t .exact = (⟨m, false, false⟩, e) ∧
      Canonical (ofParts s m e) ∧ value (ofParts s m e) = (s.apply r : ℤ) * 2 ^ t := by
  rcases hr.lt_or_eq with hlt | rfl
  · have hlog : r.log2 ≤ 52 := by
      rcases Nat.eq_zero_or_pos r with rfl | hpos
      · simp
      · have := (Nat.log2_lt hpos.ne').mpr hlt
        omega
    have hshift : (Format.binary64.targetExponent (totalExponent r t) - t).toNat = 0 := by
      rw [targetExponent_binary64, totalExponent]
      omega
    refine ⟨r, t, ?_, canonical_ofParts hlt ht hlow, value_ofParts s r t⟩
    simp only [shiftToTargetExponent, shiftToExponent, hshift]
    simp
    rfl
  · have hshift : (Format.binary64.targetExponent (totalExponent (2 ^ 53) t) - t).toNat = 1 := by
      rw [targetExponent_binary64, totalExponent, Nat.log2_two_pow]
      omega
    refine ⟨2 ^ 52, t + 1, ?_, canonical_ofParts (by norm_num) (by omega) (.inl le_rfl), ?_⟩
    · simp only [shiftToTargetExponent, shiftToExponent, hshift]
      rfl
    · rw [value_ofParts, zpow_add_one₀ two_ne_zero]
      cases s <;> simp [Sign.apply] <;> ring

/-- What the first shift leaves is the correctly rounded number up to a carry. -/
private lemma firstShift {m : ℕ} {e : ℤ} {acc : Accuracy} {x : ℚ} (hx : 0 < x)
    (h : Represents (.ofMantissaAndAccuracy m acc) x) (hp : Precise m e) :
    ∃ em, shiftToTargetExponent .binary64 m e acc = (em, lastDigit (x * 2 ^ e)) ∧
      (em.roundedMantissa : ℤ) = nearestEven (x * 2 ^ e / 2 ^ lastDigit (x * 2 ^ e)) := by
  have he := exponent_le_lastDigit hx h.floor_eq hp
  have htarget := targetExponent_eq (e := e) hx h.floor_eq (hp.imp_left fun hm => by omega)
  obtain ⟨k, hk⟩ := Int.eq_ofNat_of_zero_le (sub_nonneg.mpr he)
  refine ⟨ExtendedMantissa.ofMantissaAndAccuracy m acc >>> k, ?_, ?_⟩
  · simp only [shiftToTargetExponent, shiftToExponent, htarget, hk, Int.toNat_natCast]
    rw [show e + (k : ℤ) = lastDigit (x * 2 ^ e) by omega]
  · rw [(h.shiftRight k).roundedMantissa]
    have hlast : (2 : ℚ) ^ lastDigit (x * 2 ^ e) = 2 ^ e * 2 ^ k := by
      rw [show lastDigit (x * 2 ^ e) = e + k by omega, zpow_add₀ two_ne_zero, zpow_natCast]
    rw [hlast, mul_comm x, mul_div_mul_left _ _ (by positivity)]

/-- The datum is canonical and stands for the correctly rounded fraction. -/
structure RoundsTo (a : UnpackedFloat) (q : ℚ) : Prop where
  canonical : Canonical a
  value_eq : value a = rounded q

theorem roundsTo_roundWithAccuracy (s : Sign) {m : ℕ} {e : ℤ} {acc : Accuracy} {x : ℚ} (hx : 0 < x)
    (h : Represents (.ofMantissaAndAccuracy m acc) x) (hp : Precise m e) :
    RoundsTo (roundWithAccuracy .binary64 s m e acc) ((s.apply 1 : ℤ) * (x * 2 ^ e)) := by
  have hq : 0 < x * 2 ^ e := by positivity
  -- Only the first of the two shifts loses digits; the second one settles a carry.
  obtain ⟨em, hfirst, hr⟩ := firstShift hx h hp
  generalize x * 2 ^ e = q at *
  have hlow := le_nearestEven_digits hq
  have hhigh := nearestEven_digits_le hq
  rw [← hr] at hlow hhigh
  have hmin : -1074 ≤ lastDigit q := le_max_right _ _
  obtain ⟨m', e', hsecond, hcanonical, hvalue⟩ :=
    carry s (r := em.roundedMantissa) (by exact_mod_cast hhigh) hmin (by exact_mod_cast hlow)
  have hparts : roundWithAccuracy .binary64 s m e acc = ofParts s m' e' := by
    simp only [roundWithAccuracy, hfirst, hsecond]
    rfl
  have hrounded : rounded q = (em.roundedMantissa : ℚ) * 2 ^ lastDigit q := by
    rw [rounded, ← hr, Int.cast_natCast]
  rw [hparts]
  refine ⟨hcanonical, ?_⟩
  rw [hvalue]
  cases s with
  | negative => simp [Sign.apply, rounded_neg, hrounded]
  | positive => simp [Sign.apply, hrounded]

lemma roundsTo_value {a : UnpackedFloat} (h : Canonical a) : RoundsTo a (value a) := by
  refine ⟨h, ?_⟩
  cases a with
  | infinity _ | notANumber => exact h.elim
  | zero _ => simp [value]
  | finite s m e hm =>
    obtain ⟨hhigh, he, hlow⟩ := h
    have hlast : lastDigit ((m : ℚ) * 2 ^ e) = e := by
      have hm' : (0 : ℚ) < m := by exact_mod_cast hm
      have hlog : m.log2 < 53 := (Nat.log2_lt hm.ne').mpr hhigh
      rw [lastDigit, abs_of_pos (by positivity), log_mul_two_zpow e hm (Int.floor_natCast m)]
      rcases hlow with hlow | rfl
      · have := (Nat.le_log2 hm.ne').mpr hlow
        omega
      · omega
    have hrounded : rounded ((m : ℚ) * 2 ^ e) = m * 2 ^ e := by
      rw [rounded, hlast, mul_div_cancel_right₀ _ (by positivity), ← Int.cast_natCast,
        nearestEven_intCast]
    cases s with
    | negative => simp [value, Sign.apply, rounded_neg, hrounded]
    | positive => simp [value, Sign.apply, hrounded]

end LoginRisk.Number
