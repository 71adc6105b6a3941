import LoginRisk.Proofs.Number.Order
import LoginRisk.Settings.Validate
import Mathlib.Tactic.Lemma

/-!
What the acceptance of settings tells about them.
-/

namespace LoginRisk

open Number

lemma isWeight_iff (x : Float) : isWeight x = true ↔ x.isFinite = true ∧ 0.0 ≤ x := by
  rw [isWeight, Bool.and_eq_true]
  refine and_congr_right fun hx => ?_
  constructor
  · intro h
    exact float_le_of_not_lt (isNaN_of_isFinite hx) rfl (by simpa using h)
  · intro h
    simpa using not_float_lt_of_le h

lemma Settings.validate_eq_ok {s : Settings} (h : s.firstError.isNone = true) :
    s.validate = .ok () := by
  rw [validate, Option.isNone_iff_eq_none.mp h]

lemma Settings.isWeight_of_validate {s : Settings} (h : s.validate = .ok ()) :
    ∀ w ∈ s.scoring.weights, isWeight w.2 = true := by
  cases hfind : s.scoring.weights.find? fun w => !isWeight w.2 with
  | none => simpa using hfind
  | some w =>
    rw [validate, firstError, hfind] at h
    cases h

end LoginRisk
