import Mathlib.Algebra.Order.Field.Power
import Mathlib.Data.Int.Log
import Mathlib.Data.Rat.Floor
import Mathlib.Tactic.FieldSimp
import Mathlib.Tactic.GCongr
import Mathlib.Tactic.Linarith
import Mathlib.Tactic.Positivity

/-!
Correct rounding of a fraction to 53 binary digits, ties to the even number, with the spacing of
subnormal numbers near zero and no largest number. Rounding preserves order.
-/

namespace LoginRisk.Number

def nearestEven (x : ℚ) : ℤ :=
  if Int.fract x < 1 / 2 then ⌊x⌋ else if 1 / 2 < Int.fract x then ⌊x⌋ + 1 else ⌊x⌋ + ⌊x⌋ % 2

lemma floor_le_nearestEven (x : ℚ) : ⌊x⌋ ≤ nearestEven x := by
  unfold nearestEven
  split_ifs <;> omega

lemma nearestEven_le_floor_add_one (x : ℚ) : nearestEven x ≤ ⌊x⌋ + 1 := by
  unfold nearestEven
  split_ifs <;> omega

@[simp] lemma nearestEven_intCast (n : ℤ) : nearestEven n = n := by
  simp [nearestEven]

lemma nearestEven_mono {x y : ℚ} (h : x ≤ y) : nearestEven x ≤ nearestEven y := by
  rcases (Int.floor_mono h).lt_or_eq with hlt | heq
  · calc nearestEven x ≤ ⌊x⌋ + 1 := nearestEven_le_floor_add_one x
      _ ≤ ⌊y⌋ := hlt
      _ ≤ nearestEven y := floor_le_nearestEven y
  · -- On one unit interval the answer depends on the fractional part alone.
    have hfract : Int.fract x ≤ Int.fract y := by
      rw [← Int.self_sub_floor, ← Int.self_sub_floor, heq]
      linarith
    unfold nearestEven
    rw [heq]
    split_ifs <;> first | omega | linarith

lemma nearestEven_neg (x : ℚ) : nearestEven (-x) = -nearestEven x := by
  by_cases hx : Int.fract x = 0
  · obtain ⟨n, rfl⟩ := Int.fract_eq_zero_iff.mp hx
    rw [← Int.cast_neg, nearestEven_intCast, nearestEven_intCast]
  · have hfloor : ⌊-x⌋ = -⌊x⌋ - 1 := by
      have h := Int.self_sub_floor (-x)
      rw [Int.fract_neg hx, ← Int.self_sub_floor x] at h
      have : ((⌊-x⌋ : ℤ) : ℚ) = ((-⌊x⌋ - 1 : ℤ) : ℚ) := by
        push_cast
        linarith
      exact_mod_cast this
    unfold nearestEven
    rw [hfloor, Int.fract_neg hx]
    split_ifs <;> first | omega | linarith

lemma nearestEven_le {x : ℚ} {n : ℤ} (h : x ≤ n) : nearestEven x ≤ n := by
  simpa using nearestEven_mono h

lemma le_nearestEven {x : ℚ} {n : ℤ} (h : (n : ℚ) ≤ x) : n ≤ nearestEven x := by
  simpa using nearestEven_mono h

/-- The exponent of the last digit that is kept. -/
def lastDigit (q : ℚ) : ℤ := max (Int.log 2 |q| - 52) (-1074)

def rounded (q : ℚ) : ℚ := nearestEven (q / 2 ^ lastDigit q) * 2 ^ lastDigit q

@[simp] lemma lastDigit_neg (q : ℚ) : lastDigit (-q) = lastDigit q := by
  rw [lastDigit, abs_neg, lastDigit]

lemma rounded_neg (q : ℚ) : rounded (-q) = -rounded q := by
  simp [rounded, neg_div, nearestEven_neg]

@[simp] lemma rounded_zero : rounded 0 = 0 := by
  have h := nearestEven_intCast 0
  simp_all [rounded]

/-- At most 53 digits are kept. A carry may make them the first number with one more. -/
lemma nearestEven_digits_le {q : ℚ} (hq : 0 < q) : nearestEven (q / 2 ^ lastDigit q) ≤ 2 ^ 53 := by
  refine nearestEven_le ((div_le_iff₀ (by positivity)).mpr ?_)
  have hlog : Int.log 2 q + 1 ≤ 53 + lastDigit q := by
    rw [lastDigit, abs_of_pos hq]
    omega
  calc q ≤ 2 ^ (Int.log 2 q + 1) := (Int.lt_zpow_succ_log_self one_lt_two q).le
    _ ≤ 2 ^ (53 + lastDigit q) := zpow_le_zpow_right₀ one_le_two hlog
    _ = (2 ^ 53 : ℤ) * 2 ^ lastDigit q := by
      rw [zpow_add₀ two_ne_zero]
      norm_num

/-- All 53 digits are used down to the least exponent. -/
lemma le_nearestEven_digits {q : ℚ} (hq : 0 < q) :
    2 ^ 52 ≤ nearestEven (q / 2 ^ lastDigit q) ∨ lastDigit q = -1074 := by
  by_cases h : lastDigit q = -1074
  · exact .inr h
  · have hlog : Int.log 2 q = 52 + lastDigit q := by
      rw [lastDigit, abs_of_pos hq] at h ⊢
      omega
    refine .inl (le_nearestEven ((le_div_iff₀ (by positivity)).mpr ?_))
    calc ((2 ^ 52 : ℤ) : ℚ) * 2 ^ lastDigit q = 2 ^ Int.log 2 q := by
          rw [hlog, zpow_add₀ two_ne_zero]
          norm_num
      _ ≤ q := Int.zpow_log_le_self one_lt_two hq

lemma lastDigit_mono {p q : ℚ} (hp : 0 < p) (h : p ≤ q) : lastDigit p ≤ lastDigit q := by
  have hlog : Int.log 2 p ≤ Int.log 2 q := Int.log_mono_right hp h
  rw [lastDigit, lastDigit, abs_of_pos hp, abs_of_pos (hp.trans_le h)]
  omega

lemma rounded_le {p : ℚ} {n : ℤ} (h : p ≤ n * 2 ^ lastDigit p) :
    rounded p ≤ n * 2 ^ lastDigit p := by
  have hn : nearestEven (p / 2 ^ lastDigit p) ≤ n :=
    nearestEven_le ((div_le_iff₀ (by positivity)).mpr h)
  rw [rounded]
  gcongr

lemma le_rounded {p : ℚ} {n : ℤ} (h : n * 2 ^ lastDigit p ≤ p) :
    n * 2 ^ lastDigit p ≤ rounded p := by
  have hn : n ≤ nearestEven (p / 2 ^ lastDigit p) :=
    le_nearestEven ((le_div_iff₀ (by positivity)).mpr h)
  rw [rounded]
  gcongr

lemma two_zpow_eq_multiple {d e : ℤ} (h : d ≤ e) : ∃ n : ℤ, (2 : ℚ) ^ e = n * 2 ^ d := by
  obtain ⟨k, hk⟩ := Int.eq_ofNat_of_zero_le (sub_nonneg.mpr h)
  refine ⟨2 ^ k, ?_⟩
  rw [show e = k + d by omega, zpow_add₀ two_ne_zero, zpow_natCast]
  push_cast
  rfl

lemma rounded_nonneg {q : ℚ} (h : 0 ≤ q) : 0 ≤ rounded q := by
  have hle := le_rounded (p := q) (n := 0) (by simpa using h)
  simpa using hle

private lemma rounded_mono_pos {p q : ℚ} (hp : 0 < p) (h : p ≤ q) : rounded p ≤ rounded q := by
  rcases (lastDigit_mono hp h).lt_or_eq with hlt | heq
  · -- The leading power of two of `q` lies between the two numbers.
    have hq : 0 < q := hp.trans_le h
    have hlogq : lastDigit q = Int.log 2 q - 52 := by
      rw [lastDigit, lastDigit, abs_of_pos hp, abs_of_pos hq] at hlt
      rw [lastDigit, abs_of_pos hq]
      omega
    have hlogp : Int.log 2 p < Int.log 2 q := by
      rw [hlogq, lastDigit, abs_of_pos hp] at hlt
      omega
    have hple : p ≤ 2 ^ Int.log 2 q := ((Int.lt_zpow_iff_log_lt one_lt_two hp).mpr hlogp).le
    have hleq : 2 ^ Int.log 2 q ≤ q := Int.zpow_log_le_self one_lt_two hq
    obtain ⟨m, hm⟩ := two_zpow_eq_multiple (show lastDigit p ≤ Int.log 2 q by omega)
    obtain ⟨n, hn⟩ := two_zpow_eq_multiple (show lastDigit q ≤ Int.log 2 q by omega)
    calc rounded p ≤ m * 2 ^ lastDigit p := rounded_le (hm ▸ hple)
      _ = n * 2 ^ lastDigit q := hm.symm.trans hn
      _ ≤ rounded q := le_rounded (hn ▸ hleq)
  · rw [rounded, rounded, heq]
    have hdiv : p / 2 ^ lastDigit q ≤ q / 2 ^ lastDigit q := by gcongr
    have := nearestEven_mono hdiv
    gcongr

theorem rounded_mono {p q : ℚ} (h : p ≤ q) : rounded p ≤ rounded q := by
  rcases lt_trichotomy p 0 with hp | rfl | hp
  · rcases lt_or_ge q 0 with hq | hq
    · have hneg := rounded_mono_pos (neg_pos.mpr hq) (neg_le_neg h)
      rw [rounded_neg, rounded_neg] at hneg
      exact neg_le_neg_iff.mp hneg
    · have hnonneg := rounded_nonneg (neg_nonneg.mpr hp.le)
      rw [rounded_neg] at hnonneg
      linarith [rounded_nonneg hq]
  · simpa using rounded_nonneg h
  · exact rounded_mono_pos hp h

/-! What is its own rounding, and what is so close to a whole number that it rounds to it. -/

lemma nearestEven_le_of_lt {x : ℚ} {n : ℤ} (h : x < n + 1 / 2) : nearestEven x ≤ n := by
  have hle : ⌊x⌋ ≤ n := Int.lt_add_one_iff.mp (Int.floor_lt.mpr (by push_cast; linarith))
  rcases hle.lt_or_eq with hlt | heq
  · have := nearestEven_le_floor_add_one x
    omega
  · have hfract : Int.fract x < 1 / 2 := by
      rw [← Int.self_sub_floor, heq]
      linarith
    rw [nearestEven, if_pos hfract, heq]

lemma lastDigit_le {q : ℚ} {e : ℤ} (hq : 0 < q) (h : q < 2 ^ (e + 53)) (he : -1074 ≤ e) : lastDigit q ≤ e := by
  have hlog := (Int.lt_zpow_iff_log_lt one_lt_two hq).mp h
  rw [lastDigit, abs_of_pos hq]
  omega

/-- At any exponent there is, a number of 53 digits is its own rounding. -/
lemma rounded_of_lt {n : ℕ} {e : ℤ} (hn : n < 2 ^ 53) (he : -1074 ≤ e) :
    rounded (n * 2 ^ e) = n * 2 ^ e := by
  rcases Nat.eq_zero_or_pos n with rfl | hpos
  · simp
  have hdigits : (n : ℚ) * 2 ^ e < 2 ^ (e + 53) := by
    rw [zpow_add₀ two_ne_zero, mul_comm]
    gcongr
    exact_mod_cast hn
  have hpos' : (0 : ℚ) < n * 2 ^ e := by positivity
  obtain ⟨k, hk⟩ := two_zpow_eq_multiple (lastDigit_le hpos' hdigits he)
  have hmultiple : (n : ℚ) * 2 ^ e = (n * k : ℤ) * 2 ^ lastDigit (n * 2 ^ e) := by
    push_cast
    rw [mul_assoc, ← hk]
  refine le_antisymm ?_ ?_
  · exact (rounded_le hmultiple.le).trans hmultiple.ge
  · exact hmultiple.le.trans (le_rounded hmultiple.ge)

lemma rounded_natCast {n : ℕ} (hn : n < 2 ^ 53) : rounded n = n := by
  simpa using rounded_of_lt (e := 0) hn (by decide)

/-- What is above `n` by less than half of the last digit does not round to more. -/
lemma rounded_le_natCast {n : ℕ} (hn : n < 2 ^ 53) {q : ℚ} (h : q ≤ n + n / 2 ^ 54) : rounded q ≤ n := by
  rcases le_or_gt q n with hle | hlt
  · exact (rounded_mono hle).trans (rounded_natCast hn).le
  have hq : 0 < q := (Nat.cast_nonneg n).trans_lt hlt
  have hq53 : q < 2 ^ ((0 : ℤ) + 53) := by
    have hn' : (n : ℚ) + 1 ≤ 2 ^ 53 := by exact_mod_cast hn
    norm_num at hn' ⊢
    linarith
  obtain ⟨k, hk⟩ := two_zpow_eq_multiple (lastDigit_le hq hq53 (by decide))
  rw [zpow_zero] at hk
  -- The number has no more digits than the fraction, so that the error is less than half of the last one.
  have hdigits : (n : ℚ) < 2 ^ (lastDigit q + 53) := by
    have hlog : Int.log 2 q + 1 ≤ lastDigit q + 53 := by
      rw [lastDigit, abs_of_pos hq]
      omega
    calc (n : ℚ) < q := hlt
      _ < 2 ^ (Int.log 2 q + 1) := Int.lt_zpow_succ_log_self one_lt_two q
      _ ≤ 2 ^ (lastDigit q + 53) := zpow_le_zpow_right₀ one_le_two hlog
  have hwhole : nearestEven (q / 2 ^ lastDigit q) ≤ n * k := by
    refine nearestEven_le_of_lt ((div_lt_iff₀ (by positivity)).mpr ?_)
    rw [zpow_add₀ two_ne_zero] at hdigits
    push_cast
    rw [add_mul, mul_assoc, ← hk]
    norm_num at hdigits ⊢
    linarith
  calc rounded q ≤ ((n * k : ℤ) : ℚ) * 2 ^ lastDigit q := by
        rw [rounded]
        gcongr
    _ = n := by
      push_cast
      rw [mul_assoc, ← hk, mul_one]

end LoginRisk.Number
