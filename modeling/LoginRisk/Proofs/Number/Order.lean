import LoginRisk.Assessment.Fallback
import LoginRisk.Assessment.Validate
import Mathlib.Data.Prod.Lex
import Mathlib.Order.Basic

/-!
The order of floating-point numbers and the arithmetic that a unit score needs. Comparisons are
read off a place in a linear order, so that they are transitive and, away from non-numbers, total.
-/

namespace LoginRisk.Number

open Float.Model Float.Model.UnpackedFloat

/-- The place of a number: its kind from minus to plus infinity, then its exponent and mantissa. -/
def place : UnpackedFloat → ℤ ×ₗ ℤ ×ₗ ℤ
  | .infinity .negative => toLex (-2, toLex (0, 0))
  | .finite .negative m e _ => toLex (-1, toLex (-e, -m))
  | .notANumber | .zero _ => toLex (0, toLex (0, 0))
  | .finite .positive m e _ => toLex (1, toLex (e, m))
  | .infinity .positive => toLex (2, toLex (0, 0))

private lemma compare_toLex {α : Type} [Ord α] (a b : ℤ) (x y : α) :
    compare (toLex (a, x)) (toLex (b, y)) = (compare a b).then (compare x y) :=
  rfl

private lemma compare_neg_neg (a b : ℤ) : compare (-a) (-b) = (compare a b).swap := by
  rw [← Std.OrientedCmp.eq_swap]
  rcases lt_trichotomy a b with h | h | h
  · rw [compare_gt_iff_gt.mpr h, compare_gt_iff_gt.mpr (by omega)]
  · rw [h]
    simp
  · rw [compare_lt_iff_lt.mpr h, compare_lt_iff_lt.mpr (by omega)]

private lemma compare_natCast (m n : ℕ) : compare (m : ℤ) (n : ℤ) = compare m n := by
  rcases lt_trichotomy m n with h | h | h
  · rw [compare_lt_iff_lt.mpr h, compare_lt_iff_lt.mpr (by omega)]
  · rw [h]
    simp
  · rw [compare_gt_iff_gt.mpr h, compare_gt_iff_gt.mpr (by omega)]

private lemma compare_positive (m₁ m₂ : ℕ) (e₁ e₂ : ℤ) :
    (compare e₁ e₂).then (compare m₁ m₂) =
      compare (toLex ((1 : ℤ), toLex (e₁, (m₁ : ℤ)))) (toLex ((1 : ℤ), toLex (e₂, (m₂ : ℤ)))) := by
  simp [compare_toLex, compare_natCast]

private lemma compare_negative (m₁ m₂ : ℕ) (e₁ e₂ : ℤ) :
    ((compare e₁ e₂).then (compare m₁ m₂)).swap =
      compare (toLex (-1, toLex (-e₁, -(m₁ : ℤ)))) (toLex (-1, toLex (-e₂, -(m₂ : ℤ)))) := by
  simp [compare_toLex, compare_neg_neg, compare_natCast, Ordering.swap_then]

lemma compare_eq_place {a b : UnpackedFloat} (ha : a.isNaN = false) (hb : b.isNaN = false) :
    a.compare b = some (compare (place a) (place b)) := by
  rcases a with ⟨_ | _⟩ | _ | _ | ⟨_ | _, m₁, e₁, _⟩ <;>
    rcases b with ⟨_ | _⟩ | _ | _ | ⟨_ | _, m₂, e₂, _⟩ <;>
    first
    | rfl
    | exact absurd ha (by decide)
    | exact absurd hb (by decide)
    | exact congrArg some (compare_positive m₁ m₂ e₁ e₂)
    | exact congrArg some (compare_negative m₁ m₂ e₁ e₂)

private lemma eq_notANumber {a : UnpackedFloat} (h : a.isNaN = true) : a = .notANumber := by
  cases a with
  | notANumber => rfl
  | infinity _ | zero _ | finite _ _ _ _ => cases h

private lemma compare_notANumber_left (b : UnpackedFloat) : UnpackedFloat.compare .notANumber b = none := by
  cases b <;> rfl

private lemma compare_notANumber_right (a : UnpackedFloat) :
    UnpackedFloat.compare a .notANumber = none := by
  cases a <;> rfl

lemma unpacked_lt_iff (a b : UnpackedFloat) :
    a.lt b = true ↔ a.isNaN = false ∧ b.isNaN = false ∧ place a < place b := by
  rcases ha : a.isNaN with _ | _
  · rcases hb : b.isNaN with _ | _
    · simp [UnpackedFloat.lt, compare_eq_place ha hb, compare_lt_iff_lt]
    · obtain rfl := eq_notANumber hb
      simp [UnpackedFloat.lt, compare_notANumber_right]
  · obtain rfl := eq_notANumber ha
    simp [UnpackedFloat.lt, compare_notANumber_left]

lemma unpacked_le_iff (a b : UnpackedFloat) :
    a.le b = true ↔ a.isNaN = false ∧ b.isNaN = false ∧ place a ≤ place b := by
  rcases ha : a.isNaN with _ | _
  · rcases hb : b.isNaN with _ | _
    · simp [UnpackedFloat.le, compare_eq_place ha hb, ← compare_le_iff_le, Ordering.ne_gt_iff_isLE]
    · obtain rfl := eq_notANumber hb
      simp [UnpackedFloat.le, compare_notANumber_right]
  · obtain rfl := eq_notANumber ha
    simp [UnpackedFloat.le, compare_notANumber_left]

lemma float_lt_iff (x y : Float) :
    x < y ↔ x.isNaN = false ∧ y.isNaN = false ∧ place x.toModel.unpack < place y.toModel.unpack :=
  decide_eq_true_iff.trans (unpacked_lt_iff x.toModel.unpack y.toModel.unpack)

lemma float_le_iff (x y : Float) :
    x ≤ y ↔ x.isNaN = false ∧ y.isNaN = false ∧ place x.toModel.unpack ≤ place y.toModel.unpack :=
  decide_eq_true_iff.trans (unpacked_le_iff x.toModel.unpack y.toModel.unpack)

lemma float_lt_of_le_of_lt {x y z : Float} (hxy : x ≤ y) (hyz : y < z) : x < z := by
  rw [float_le_iff] at hxy
  rw [float_lt_iff] at hyz ⊢
  exact ⟨hxy.1, hyz.2.1, lt_of_le_of_lt hxy.2.2 hyz.2.2⟩

lemma float_le_of_lt {x y : Float} (h : x < y) : x ≤ y := by
  rw [float_lt_iff] at h
  rw [float_le_iff]
  exact ⟨h.1, h.2.1, h.2.2.le⟩

lemma float_le_of_not_lt {x y : Float} (hx : x.isNaN = false) (hy : y.isNaN = false)
    (h : ¬x < y) : y ≤ x := by
  rw [float_lt_iff] at h
  rw [float_le_iff]
  exact ⟨hy, hx, not_lt.mp fun hlt => h ⟨hx, hy, hlt⟩⟩

lemma not_float_lt_of_le {x y : Float} (h : x ≤ y) : ¬y < x := by
  rw [float_le_iff] at h
  rw [float_lt_iff]
  exact fun hlt => absurd hlt.2.2 (not_lt.mpr h.2.2)

lemma isNaN_of_isFinite {x : Float} (h : x.isFinite = true) : x.isNaN = false := by
  change x.toModel.unpack.isFinite = true at h
  change x.toModel.unpack.isNaN = false
  generalize x.toModel.unpack = a at h ⊢
  cases a with
  | notANumber => cases h
  | infinity _ | zero _ | finite _ _ _ _ => rfl

lemma unpack_pack_notANumber : (Float.Model.pack .notANumber).unpack = .notANumber :=
  rfl

lemma unpack_pack_infinity (s : Sign) :
    (Float.Model.pack (.infinity s)).unpack = .infinity s := by
  cases s <;> rfl

lemma isFinite_of_pack {a : UnpackedFloat} (h : (Float.Model.pack a).unpack.isFinite = true) :
    a.isFinite = true := by
  cases a with
  | zero _ | finite _ _ _ _ => rfl
  | notANumber =>
    rw [unpack_pack_notANumber] at h
    exact h
  | infinity s =>
    rw [unpack_pack_infinity] at h
    exact h

lemma isFinite_left_of_mul {x y : Float} (h : (x * y).isFinite = true) : x.isFinite = true := by
  have hmul : (UnpackedFloat.mul .binary64 x.toModel.unpack y.toModel.unpack).isFinite = true :=
    isFinite_of_pack h
  change x.toModel.unpack.isFinite = true
  generalize x.toModel.unpack = a at hmul ⊢
  generalize y.toModel.unpack = b at hmul
  cases a with
  | zero _ | finite _ _ _ _ => rfl
  | notANumber => exact hmul
  | infinity s => cases b <;> exact hmul

lemma isFinite_left_of_add {x y : Float} (h : (x + y).isFinite = true) : x.isFinite = true := by
  have hadd : (UnpackedFloat.add .binary64 x.toModel.unpack y.toModel.unpack).isFinite = true :=
    isFinite_of_pack h
  change x.toModel.unpack.isFinite = true
  generalize x.toModel.unpack = a at hadd ⊢
  generalize y.toModel.unpack = b at hadd
  cases a with
  | zero _ | finite _ _ _ _ => rfl
  | notANumber => exact hadd
  | infinity s =>
    cases b with
    | notANumber | zero _ | finite _ _ _ _ => exact hadd
    | infinity s' => cases s <;> cases s' <;> exact hadd

end LoginRisk.Number

namespace LoginRisk

open Number

lemma isUnit_iff (x : Float) : isUnit x = true ↔ x.isFinite = true ∧ 0.0 ≤ x ∧ x ≤ 1.0 := by
  simp [isUnit, and_assoc]

lemma isFinite_of_isUnit {x : Float} (h : isUnit x = true) : x.isFinite = true := ((isUnit_iff x).mp h).1

lemma isUnit_clampUnit (x : Float) : isUnit (clampUnit x) = true := by
  unfold clampUnit
  split
  · rename_i hx
    split
    · decide
    · rename_i h0
      split
      · decide
      · rename_i h1
        have hn := isNaN_of_isFinite hx
        rw [isUnit_iff]
        exact ⟨hx, float_le_of_not_lt hn (by decide) h0, float_le_of_not_lt (by decide) hn h1⟩
  · decide

lemma clampUnit_of_isUnit {x : Float} (h : isUnit x = true) : clampUnit x = x := by
  obtain ⟨hx, h0, h1⟩ := (isUnit_iff x).mp h
  rw [clampUnit, if_pos hx, if_neg (not_float_lt_of_le h0), if_neg (not_float_lt_of_le h1)]

@[simp] lemma clampUnit_clampUnit (x : Float) : clampUnit (clampUnit x) = clampUnit x :=
  clampUnit_of_isUnit (isUnit_clampUnit x)

end LoginRisk
