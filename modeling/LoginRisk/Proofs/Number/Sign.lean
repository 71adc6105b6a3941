import LoginRisk.Proofs.Number.Exact

/-!
Signs of floating-point numbers. Changing a sign is exact, a difference is the sum with the other sign,
and what is added to a finite number makes it no more than infinite.
-/

namespace LoginRisk.Number

open Float.Model Float.Model.UnpackedFloat

private lemma unpack_pack_of_sign {f : UnpackedFloat → UnpackedFloat} {x : Float}
    (hcanonical : ∀ a, Canonical a → Canonical (f a)) (hcapped : ∀ a, capped (f a) = f (capped a))
    (hfinite : ∀ a, (f a).isFinite = a.isFinite) :
    (Float.Model.pack (f x.toModel.unpack)).unpack = f x.toModel.unpack := by
  rcases hx : x.isFinite with _ | _
  · have hf : (f x.toModel.unpack).isFinite = false := (hfinite _).trans hx
    generalize f x.toModel.unpack = a at hf
    cases a with
    | zero _ | finite _ _ _ _ => cases hf
    | notANumber => exact unpack_pack_notANumber
    | infinity s => exact unpack_pack_infinity s
  · obtain ⟨ha, hcap⟩ := canonical_unpack hx
    rw [unpack_pack (hcanonical _ ha), hcapped, hcap]

lemma canonical_neg {a : UnpackedFloat} (h : Canonical a) : Canonical a.neg := by
  cases a with
  | infinity _ | notANumber => exact h.elim
  | zero _ => trivial
  | finite s m e hm => exact h

lemma capped_neg (a : UnpackedFloat) : capped a.neg = (capped a).neg := by
  cases a with
  | infinity _ | notANumber | zero _ => rfl
  | finite s m e hm =>
    simp only [UnpackedFloat.neg, capped]
    split_ifs <;> rfl

lemma unpack_neg (x : Float) : (-x).toModel.unpack = x.toModel.unpack.neg :=
  unpack_pack_of_sign (fun _ => canonical_neg) capped_neg fun a => by cases a <;> rfl

lemma unpack_abs (x : Float) : x.abs.toModel.unpack = x.toModel.unpack.abs := by
  refine unpack_pack_of_sign (fun a h => ?_) (fun a => ?_) fun a => by cases a <;> rfl
  · cases a with
    | infinity _ | notANumber => exact h.elim
    | zero _ => trivial
    | finite s m e hm => exact h
  · cases a with
    | infinity _ | notANumber | zero _ => rfl
    | finite s m e hm =>
      simp only [UnpackedFloat.abs, capped]
      split_ifs <;> rfl

@[simp] lemma float_abs_neg (x : Float) : (-x).abs = x.abs := by
  change Float.ofModel (.pack (-x).toModel.unpack.abs) = .ofModel (.pack x.toModel.unpack.abs)
  rw [unpack_neg]
  cases x.toModel.unpack <;> rfl

@[simp] lemma isFinite_neg (x : Float) : (-x).isFinite = x.isFinite := by
  change (-x).toModel.unpack.isFinite = x.toModel.unpack.isFinite
  rw [unpack_neg]
  cases x.toModel.unpack <;> rfl

@[simp] lemma isNaN_neg (x : Float) : (-x).isNaN = x.isNaN := by
  change (-x).toModel.unpack.isNaN = x.toModel.unpack.isNaN
  rw [unpack_neg]
  cases x.toModel.unpack <;> rfl

@[simp] lemma isFinite_abs (x : Float) : x.abs.isFinite = x.isFinite := by
  change x.abs.toModel.unpack.isFinite = x.toModel.unpack.isFinite
  rw [unpack_abs]
  cases x.toModel.unpack <;> rfl

@[simp] lemma isNaN_abs (x : Float) : x.abs.isNaN = x.isNaN := by
  change x.abs.toModel.unpack.isNaN = x.toModel.unpack.isNaN
  rw [unpack_abs]
  cases x.toModel.unpack <;> rfl

lemma value_neg (a : UnpackedFloat) : value a.neg = -value a := by
  rcases a with _ | _ | _ | ⟨_ | _, m, e, hm⟩ <;> simp [UnpackedFloat.neg, value, Sign.apply]

lemma exact_neg (x : Float) : exact (-x) = -exact x := by
  rw [exact, unpack_neg, value_neg, exact]

lemma exact_abs (x : Float) : exact x.abs = |exact x| := by
  rw [exact, unpack_abs, exact]
  generalize x.toModel.unpack = a
  rcases a with _ | _ | _ | ⟨_ | _, m, e, hm⟩ <;> simp [UnpackedFloat.abs, value, Sign.apply]

lemma IsRounding.neg {x : Float} {q : ℚ} (h : IsRounding x q) : IsRounding (-x) (-q) := by
  obtain ⟨a, ha, hx⟩ := h
  refine ⟨a.neg, ⟨canonical_neg ha.canonical, ?_⟩, ?_⟩
  · rw [value_neg, ha.value_eq, rounded_neg]
  · rw [unpack_neg, hx, capped_neg]

lemma isRounding_ofInt (n : ℤ) : IsRounding (Float.ofInt n) n := by
  cases n with
  | ofNat n => exact isRounding_ofNat n
  | negSucc n =>
    rw [Int.cast_negSucc]
    exact (isRounding_ofNat (n + 1)).neg

private lemma unpacked_sub_eq (a b : UnpackedFloat) :
    UnpackedFloat.sub .binary64 a b = UnpackedFloat.add .binary64 a b.neg := by
  rcases a with _ | _ | _ | ⟨s, m, e, hm⟩ <;> rcases b with _ | _ | _ | ⟨_ | _, m', e', hm'⟩ <;>
    first
    | rfl
    | exact congrArg (UnpackedFloat.normalize .binary64 · (min e e') .positive) (Int.sub_neg ..)

lemma float_sub_eq (x y : Float) : x - y = x + -y := by
  change Float.ofModel (.pack (UnpackedFloat.sub .binary64 x.toModel.unpack y.toModel.unpack)) =
    .ofModel (.pack (UnpackedFloat.add .binary64 x.toModel.unpack (-y).toModel.unpack))
  rw [unpacked_sub_eq, unpack_neg]

lemma add_abs_eq (x y : Float) : x + y.abs = x + y ∨ x + y.abs = x - y := by
  have hsum : ∀ z : Float, y.abs.toModel.unpack = z.toModel.unpack → x + y.abs = x + z := by
    intro z hz
    change Float.ofModel (.pack (UnpackedFloat.add .binary64 x.toModel.unpack y.abs.toModel.unpack)) =
      .ofModel (.pack (UnpackedFloat.add .binary64 x.toModel.unpack z.toModel.unpack))
    rw [hz]
  rw [float_sub_eq]
  have hcases : y.toModel.unpack.abs = y.toModel.unpack ∨ y.toModel.unpack.abs = y.toModel.unpack.neg := by
    generalize y.toModel.unpack = a
    rcases a with ⟨_ | _⟩ | _ | ⟨_ | _⟩ | ⟨_ | _, m, e, hm⟩ <;> first | exact .inl rfl | exact .inr rfl
  exact hcases.imp (fun h => hsum y ((unpack_abs y).trans h))
    fun h => hsum (-y) ((unpack_abs y).trans (h.trans (unpack_neg y).symm))

lemma isNaN_add {x y : Float} (hx : x.isFinite = true) (hy : y.isNaN = false) :
    (x + y).isNaN = false := by
  rcases hfinite : y.isFinite with _ | _
  · change (Float.Model.pack (UnpackedFloat.add .binary64 x.toModel.unpack
      y.toModel.unpack)).unpack.isNaN = false
    change x.toModel.unpack.isFinite = true at hx
    change y.toModel.unpack.isNaN = false at hy
    change y.toModel.unpack.isFinite = false at hfinite
    generalize x.toModel.unpack = a at hx ⊢
    generalize y.toModel.unpack = b at hy hfinite ⊢
    cases b with
    | notANumber => cases hy
    | zero _ | finite _ _ _ _ => cases hfinite
    | infinity s =>
      have hadd : UnpackedFloat.add .binary64 a (.infinity s) = .infinity s := by
        cases a with
        | notANumber | infinity _ => cases hx
        | zero _ | finite _ _ _ _ => rfl
      rw [hadd, unpack_pack_infinity]
      rfl
  · exact (isRounding_add hx hfinite).isNaN

lemma isNaN_add_of_isNaN (x : Float) {y : Float} (hy : y.isNaN = true) : (x + y).isNaN = true := by
  change (Float.Model.pack (UnpackedFloat.add .binary64 x.toModel.unpack
    y.toModel.unpack)).unpack.isNaN = true
  change y.toModel.unpack.isNaN = true at hy
  have hadd : UnpackedFloat.add .binary64 x.toModel.unpack y.toModel.unpack = .notANumber := by
    generalize x.toModel.unpack = a
    generalize y.toModel.unpack = b at hy
    cases b with
    | notANumber => cases a <;> rfl
    | infinity _ | zero _ | finite _ _ _ _ => cases hy
  rw [hadd, unpack_pack_notANumber]
  rfl

lemma neg_abs_le_abs {x : Float} (h : x.isNaN = false) : -x.abs ≤ x.abs := by
  rw [float_le_iff, isNaN_neg, isNaN_abs, unpack_neg, unpack_abs]
  refine ⟨h, h, ?_⟩
  change x.toModel.unpack.isNaN = false at h
  generalize x.toModel.unpack = a at h
  rcases a with _ | _ | _ | _ <;> simp_all [UnpackedFloat.neg, UnpackedFloat.abs, place,
    Prod.Lex.toLex_le_toLex, UnpackedFloat.isNaN]

lemma not_lt_of_infinite {bound : Float} (hfinite : bound.isFinite = false) (hnan : bound.isNaN = false)
    (x : Float) : ¬x < -bound.abs ∧ ¬bound.abs < x := by
  change bound.toModel.unpack.isFinite = false at hfinite
  change bound.toModel.unpack.isNaN = false at hnan
  have hinf : bound.toModel.unpack.abs = .infinity .positive := by
    generalize bound.toModel.unpack = a at hfinite hnan
    cases a with
    | infinity _ => rfl
    | zero _ | finite _ _ _ _ => cases hfinite
    | notANumber => cases hnan
  rw [float_lt_iff, float_lt_iff, unpack_neg, unpack_abs, hinf]
  generalize x.toModel.unpack = a
  rcases a with ⟨_ | _⟩ | _ | _ | ⟨_ | _, m, e, hm⟩ <;>
    simp [UnpackedFloat.neg, place, Prod.Lex.toLex_lt_toLex]

lemma isFinite_right_of_add {x y : Float} (hx : x.isFinite = true) (h : (x + y).isFinite = true) :
    y.isFinite = true := by
  have hadd : (UnpackedFloat.add .binary64 x.toModel.unpack y.toModel.unpack).isFinite = true :=
    isFinite_of_pack h
  change x.toModel.unpack.isFinite = true at hx
  change y.toModel.unpack.isFinite = true
  generalize x.toModel.unpack = a at hx hadd
  generalize y.toModel.unpack = b at hadd ⊢
  cases b with
  | zero _ | finite _ _ _ _ => rfl
  | notANumber | infinity _ => cases a <;> first | exact hadd | cases hx

/-- A number that does not carry the largest one away carries none away. -/
lemma isFinite_add_of_largest {x y : Float} (hx : x.isFinite = true)
    (h : (largest + y.abs).isFinite = true) : (x + y).isFinite = true := by
  have hy : y.isFinite = true := by
    have habs := isFinite_right_of_add (x := largest) rfl h
    rwa [isFinite_abs] at habs
  have hsum := isRounding_add (x := largest) rfl ((isFinite_abs y).trans hy)
  have hupper := (exact_le_exact_iff hx rfl).mpr (le_largest hx)
  have hlower := (exact_le_exact_iff ((isFinite_neg x).trans hx) rfl).mpr
    (le_largest ((isFinite_neg x).trans hx))
  have hle := le_abs_self (exact y)
  have hge := neg_abs_le (exact y)
  rw [exact_abs] at hsum
  rw [exact_neg] at hlower
  refine isFinite_of_le_of_le ((isFinite_neg _).trans h) h (hsum.neg.mono (isRounding_add hx hy) ?_)
    ((isRounding_add hx hy).mono hsum ?_)
  · linarith
  · linarith

end LoginRisk.Number
