import LoginRisk.Proofs.Number.Arithmetic

/-!
The exact results behind floating-point arithmetic. Each operation rounds a fraction, so that the
order of two results is the order of the fractions behind them.
-/

namespace LoginRisk.Number

open Float.Model Float.Model.UnpackedFloat

/-- The fraction that a finite number stands for. -/
def exact (x : Float) : ℚ := value x.toModel.unpack

/-- The number is the fraction, rounded correctly, and infinite where that is too large. -/
def IsRounding (x : Float) (q : ℚ) : Prop := ∃ a, RoundsTo a q ∧ x.toModel.unpack = capped a

lemma isRounding_exact {x : Float} (h : x.isFinite = true) : IsRounding x (exact x) := by
  obtain ⟨hcanonical, hcapped⟩ := canonical_unpack h
  exact ⟨_, roundsTo_value hcanonical, hcapped.symm⟩

lemma isRounding_ofModel_pack {a : UnpackedFloat} {q : ℚ} (h : RoundsTo a q) :
    IsRounding (.ofModel (Float.Model.pack a)) q :=
  ⟨a, h, unpack_pack h.canonical⟩

lemma IsRounding.isNaN {x : Float} {q : ℚ} (h : IsRounding x q) : x.isNaN = false := by
  obtain ⟨a, ha, hx⟩ := h
  change x.toModel.unpack.isNaN = false
  rw [hx, isNaN_capped]
  exact ha.canonical.isNaN

/-- Rounding preserves order. -/
theorem IsRounding.mono {x y : Float} {p q : ℚ} (hx : IsRounding x p) (hy : IsRounding y q)
    (h : p ≤ q) : x ≤ y := by
  rw [float_le_iff]
  refine ⟨hx.isNaN, hy.isNaN, ?_⟩
  obtain ⟨a, ha, hxa⟩ := hx
  obtain ⟨b, hb, hyb⟩ := hy
  rw [hxa, hyb]
  refine place_capped_mono ((place_le_place_iff ha.canonical hb.canonical).mpr ?_)
  rw [ha.value_eq, hb.value_eq]
  exact rounded_mono h

lemma exact_le_exact_iff {x y : Float} (hx : x.isFinite = true) (hy : y.isFinite = true) :
    exact x ≤ exact y ↔ x ≤ y := by
  constructor
  · exact (isRounding_exact hx).mono (isRounding_exact hy)
  · intro h
    rw [float_le_iff] at h
    exact (place_le_place_iff (canonical_unpack hx).1 (canonical_unpack hy).1).mp h.2.2

lemma exact_lt_exact_iff {x y : Float} (hx : x.isFinite = true) (hy : y.isFinite = true) :
    exact x < exact y ↔ x < y := by
  rw [float_lt_iff, ← not_le, ← not_le]
  refine ⟨fun h => ⟨isNaN_of_isFinite hx, isNaN_of_isFinite hy, fun hle => h ?_⟩, fun h hle => h.2.2 ?_⟩
  · exact (place_le_place_iff (canonical_unpack hy).1 (canonical_unpack hx).1).mp hle
  · exact (place_le_place_iff (canonical_unpack hy).1 (canonical_unpack hx).1).mpr hle

lemma isRounding_add {x y : Float} (hx : x.isFinite = true) (hy : y.isFinite = true) :
    IsRounding (x + y) (exact x + exact y) :=
  isRounding_ofModel_pack (roundsTo_add (canonical_unpack hx).1 (canonical_unpack hy).1)

lemma isRounding_mul {x y : Float} (hx : x.isFinite = true) (hy : y.isFinite = true) :
    IsRounding (x * y) (exact x * exact y) :=
  isRounding_ofModel_pack (roundsTo_mul (canonical_unpack hx).1 (canonical_unpack hy).1)

lemma isRounding_div {x y : Float} (hx : x.isFinite = true) (hy : y.isFinite = true)
    (hy' : exact y ≠ 0) : IsRounding (x / y) (exact x / exact y) :=
  isRounding_ofModel_pack (roundsTo_div (canonical_unpack hx).1 (canonical_unpack hy).1 hy')

lemma rounded_exact {x : Float} (hx : x.isFinite = true) : rounded (exact x) = exact x :=
  (roundsTo_value (canonical_unpack hx).1).value_eq.symm

lemma IsRounding.exact_eq {x : Float} {q : ℚ} (h : IsRounding x q) (hx : x.isFinite = true) :
    exact x = rounded q := by
  obtain ⟨a, ha, hxa⟩ := h
  rw [← ha.value_eq, exact, hxa]
  cases a with
  | infinity _ | notANumber | zero _ => rfl
  | finite s m e hm =>
    rw [capped] at hxa ⊢
    split_ifs at hxa ⊢ with he
    · have hinf : x.toModel.unpack.isFinite = true := hx
      rw [hxa] at hinf
      cases hinf
    · rfl

lemma IsRounding.of_exact {x y : Float} {q : ℚ} (h : IsRounding x q) (hx : x.isFinite = true)
    (hy : IsRounding y (exact x)) : IsRounding y q := by
  obtain ⟨b, hb, hyb⟩ := hy
  refine ⟨b, ⟨hb.canonical, ?_⟩, hyb⟩
  rw [hb.value_eq, rounded_exact hx, h.exact_eq hx]

private lemma place_isFinite (a : UnpackedFloat) (h : a.isNaN = false) :
    a.isFinite = true ↔ toLex (-2, toLex (0, 0)) < place a ∧ place a < toLex (2, toLex (0, 0)) := by
  rcases a with ⟨_ | _⟩ | _ | _ | ⟨_ | _, m, e, _⟩ <;>
    simp_all [place, Prod.Lex.toLex_lt_toLex, UnpackedFloat.isFinite, UnpackedFloat.isNaN]

lemma isFinite_of_le_of_le {l x u : Float} (hl : l.isFinite = true) (hu : u.isFinite = true)
    (hlx : l ≤ x) (hxu : x ≤ u) : x.isFinite = true := by
  rw [float_le_iff] at hlx hxu
  have hlow := ((place_isFinite _ hlx.1).mp hl).1
  have hhigh := ((place_isFinite _ hxu.2.1).mp hu).2
  exact (place_isFinite _ hxu.1).mpr
    ⟨hlow.trans_le hlx.2.2, hxu.2.2.trans_lt hhigh⟩

lemma float_le_trans {x y z : Float} (hxy : x ≤ y) (hyz : y ≤ z) : x ≤ z := by
  rw [float_le_iff] at hxy hyz ⊢
  exact ⟨hxy.1, hyz.2.1, hxy.2.2.trans hyz.2.2⟩

lemma float_ext {x y : Float} (h : x.toModel.unpack = y.toModel.unpack) : x = y := by
  obtain ⟨⟨b, hb⟩⟩ := x
  obtain ⟨⟨c, hc⟩⟩ := y
  have hbits : b.toBitVec = c.toBitVec := by
    rw [← pack_unpack_of_valid hb, ← pack_unpack_of_valid hc]
    exact congrArg _ h
  obtain rfl : b = c := UInt64.toBitVec_inj.mp hbits
  rfl

/-- Only zero has two forms. -/
lemma float_eq_of_le_of_le {x y : Float} (h0 : 0.0 < x) (hxy : x ≤ y) (hyx : y ≤ x) : x = y := by
  rw [float_lt_iff] at h0
  rw [float_le_iff] at hxy hyx
  have hpos : toLex ((0 : ℤ), toLex ((0 : ℤ), (0 : ℤ))) < place x.toModel.unpack := h0.2.2
  have hplace : place x.toModel.unpack = place y.toModel.unpack := le_antisymm hxy.2.2 hyx.2.2
  apply float_ext
  generalize x.toModel.unpack = a at hplace hpos ⊢
  generalize y.toModel.unpack = b at hplace
  rcases a with ⟨_ | _⟩ | _ | _ | ⟨_ | _, m, e, hm⟩ <;> rcases b with ⟨_ | _⟩ | _ | _ | ⟨_ | _, m', e', hm'⟩ <;>
    simp_all [place, Prod.Lex.toLex_lt_toLex]

lemma float_add_le_add {x x' y y' : Float} (hx : x.isFinite = true) (hx' : x'.isFinite = true)
    (hy : y.isFinite = true) (hy' : y'.isFinite = true) (h : x ≤ x') (h' : y ≤ y') :
    x + y ≤ x' + y' := by
  rw [← exact_le_exact_iff hx hx'] at h
  rw [← exact_le_exact_iff hy hy'] at h'
  exact (isRounding_add hx hy).mono (isRounding_add hx' hy') (add_le_add h h')

@[simp] lemma exact_zero : exact 0.0 = 0 := rfl

private lemma unpack_one : (1.0 : Float).toModel.unpack = .finite .positive (2 ^ 52) (-52) (by decide) :=
  rfl

@[simp] lemma exact_one : exact 1.0 = 1 := by
  rw [exact, unpack_one]
  norm_num [value, Sign.apply]

private lemma unpack_two : (2.0 : Float).toModel.unpack = .finite .positive (2 ^ 52) (-51) (by decide) :=
  rfl

@[simp] lemma exact_two : exact 2.0 = 2 := by
  rw [exact, unpack_two]
  norm_num [value, Sign.apply]

private lemma le_of_infinite {x y : Float} (hx : x.isNaN = false) (hy : y.toModel.unpack = .infinity .positive) :
    x ≤ y := by
  rw [float_le_iff, hy]
  refine ⟨hx, ?_, ?_⟩
  · change y.toModel.unpack.isNaN = false
    rw [hy]
    rfl
  · generalize x.toModel.unpack = a
    rcases a with ⟨_ | _⟩ | _ | _ | ⟨_ | _, m, e, hm⟩ <;> simp [place, Prod.Lex.toLex_le_toLex]

private lemma unpack_of_infinite {x : Float} (h : 0.0 ≤ x) (hx : x.isFinite = false) :
    x.toModel.unpack = .infinity .positive := by
  rw [float_le_iff] at h
  obtain ⟨-, hn, hplace⟩ := h
  change x.toModel.unpack.isFinite = false at hx
  change x.toModel.unpack.isNaN = false at hn
  generalize x.toModel.unpack = a at hn hplace hx
  rcases a with ⟨_ | _⟩ | _ | _ | _
  · exact absurd hplace (by decide)
  · rfl
  · cases hn
  · cases hx
  · cases hx

private lemma unpack_half_of_infinite {x : Float} (h : 0.0 ≤ x) (hx : x.isFinite = false) :
    (x / 2.0).toModel.unpack = .infinity .positive := by
  change (Float.Model.pack (UnpackedFloat.div .binary64 x.toModel.unpack (2.0 : Float).toModel.unpack)).unpack = _
  rw [unpack_of_infinite h hx]
  rfl

lemma half_mono {x y : Float} (hx : 0.0 ≤ x) (h : x ≤ y) : x / 2.0 ≤ y / 2.0 := by
  rcases hy : y.isFinite with _ | _
  · refine le_of_infinite ?_ (unpack_half_of_infinite (float_le_trans hx h) hy)
    rcases hfinite : x.isFinite with _ | _
    · change (x / 2.0).toModel.unpack.isNaN = false
      rw [unpack_half_of_infinite hx hfinite]
      rfl
    · exact (isRounding_div hfinite rfl (by simp)).isNaN
  · have hfinite := isFinite_of_le_of_le rfl hy hx h
    refine (isRounding_div hfinite rfl (by simp)).mono (isRounding_div hy rfl (by simp)) ?_
    rw [← exact_le_exact_iff hfinite hy] at h
    rw [exact_two]
    gcongr

lemma half_nonneg {x : Float} (h : 0.0 ≤ x) : 0.0 ≤ x / 2.0 :=
  float_le_trans (by decide) (half_mono (x := 0.0) (by decide) h)

def largest : Float := .ofBits 0x7FEFFFFFFFFFFFFF

private lemma unpack_largest :
    largest.toModel.unpack = .finite .positive (2 ^ 53 - 1) 971 (by decide) :=
  rfl

lemma le_largest {x : Float} (hx : x.isFinite = true) : x ≤ largest := by
  obtain ⟨hcanonical, hcapped⟩ := canonical_unpack hx
  rw [float_le_iff, unpack_largest]
  refine ⟨isNaN_of_isFinite hx, rfl, ?_⟩
  generalize x.toModel.unpack = a at hcanonical hcapped
  rcases a with _ | _ | _ | ⟨_ | _, m, e, hm⟩
  · exact hcanonical.elim
  · exact hcanonical.elim
  · simp [place, Prod.Lex.toLex_le_toLex]
  · simp [place, Prod.Lex.toLex_le_toLex]
  · obtain ⟨hhigh, -, -⟩ := hcanonical
    rw [capped] at hcapped
    split_ifs at hcapped with he
    simp [place, Prod.Lex.toLex_le_toLex]
    omega

private lemma two_pow_53_le_exact_largest : (2 : ℚ) ^ 53 ≤ exact largest := by
  have h : (2 : ℚ) ^ (1 : ℤ) ≤ 2 ^ (971 : ℤ) := zpow_le_zpow_right₀ one_le_two (by norm_num)
  rw [exact, unpack_largest]
  calc (2 : ℚ) ^ 53 ≤ ((2 ^ 53 - 1 : ℕ) : ℤ) * 2 ^ (1 : ℤ) := by norm_num
    _ ≤ ((2 ^ 53 - 1 : ℕ) : ℤ) * 2 ^ (971 : ℤ) := by gcongr

private lemma isRounding_toFloat (n : UInt64) : IsRounding n.toFloat n.toNat := by
  have h := roundsTo_normalize n.toNat 0
  rw [zpow_zero, mul_one] at h
  exact isRounding_ofModel_pack h

private lemma isRounding_ofNat_small {n : ℕ} (hn : n < 2 ^ 53) : IsRounding (Float.ofNat n) n := by
  -- A number this small is taken from a machine word and multiplied by one.
  have h := isRounding_toFloat n.toUInt64
  rw [UInt64.toNat_ofNat_of_lt' (hn.trans (by decide))] at h
  have hle : n.toUInt64.toFloat ≤ largest := by
    refine h.mono (isRounding_exact rfl) (le_trans ?_ two_pow_53_le_exact_largest)
    exact_mod_cast hn.le
  have hnonneg : 0.0 ≤ n.toUInt64.toFloat := by
    refine (isRounding_exact rfl).mono h ?_
    simp
  have hfinite := isFinite_of_le_of_le rfl rfl hnonneg hle
  have hmul := isRounding_mul hfinite (y := 1.0) rfl
  rw [exact_one, mul_one] at hmul
  change IsRounding (Float.ofScientific n false 0) n
  rw [Float.ofScientific, dif_pos ⟨hn, by decide⟩]
  exact h.of_exact hfinite hmul

private lemma isRounding_ofNat_large {n : ℕ} (hn : 2 ^ 53 ≤ n) : IsRounding (Float.ofNat n) n := by
  have hpos : (0 : ℚ) < ((n <<< 53) * 10 ^ 0 : ℕ) := by
    rw [Nat.shiftLeft_eq]
    exact_mod_cast (by positivity)
  have hp : Precise (n <<< 53 * 10 ^ 0) (-53 + 0) := by
    rw [Nat.shiftLeft_eq]
    exact .inl (by omega)
  have hq : ((Sign.positive.apply 1 : ℤ) : ℚ) *
      ((n <<< 53 * 10 ^ 0 : ℕ) * 2 ^ (-53 + 0 : ℤ)) = n := by
    rw [Nat.shiftLeft_eq, add_zero, zpow_neg]
    simp only [Sign.apply]
    push_cast
    field_simp
  have h := roundsTo_roundWithAccuracy .positive (m := n <<< 53 * 10 ^ 0) (e := -53 + 0) hpos
    (represents_natCast _) hp
  rw [hq] at h
  change IsRounding (Float.ofScientific n false 0) n
  rw [Float.ofScientific, dif_neg (by omega)]
  change IsRounding (.ofModel (.pack (UnpackedFloat.ofScientific .binary64 n 0))) n
  have hof : UnpackedFloat.ofScientific .binary64 n 0 =
      roundWithAccuracy .binary64 .positive (n <<< 53 * 10 ^ 0) (-53 + 0) .exact := by
    rw [UnpackedFloat.ofScientific, dif_neg (by omega), if_neg (by decide), if_neg (by simp),
      if_pos le_rfl]
    rfl
  rw [hof]
  exact isRounding_ofModel_pack h

theorem isRounding_ofNat (n : ℕ) : IsRounding (Float.ofNat n) n := by
  rcases lt_or_ge n (2 ^ 53) with hn | hn
  · exact isRounding_ofNat_small hn
  · exact isRounding_ofNat_large hn

lemma ofNat_nonneg (n : ℕ) : 0.0 ≤ Float.ofNat n :=
  (isRounding_exact rfl).mono (isRounding_ofNat n) (by simp)

lemma isFinite_ofNat {n : ℕ} (h : n < 2 ^ 64) : (Float.ofNat n).isFinite = true := by
  have hle : Float.ofNat n ≤ Float.ofNat (2 ^ 64) :=
    (isRounding_ofNat n).mono (isRounding_ofNat _) (by exact_mod_cast h.le)
  exact isFinite_of_le_of_le rfl (by decide +kernel) (ofNat_nonneg n) hle

lemma exact_ofNat {n : ℕ} (h : n < 2 ^ 53) : exact (Float.ofNat n) = n := by
  rw [(isRounding_ofNat n).exact_eq (isFinite_ofNat (h.trans (by decide))), rounded_natCast h]

end LoginRisk.Number
