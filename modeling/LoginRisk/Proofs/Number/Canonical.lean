import LoginRisk.Proofs.Number.Order
import Mathlib

/-!
Unpacked floating-point numbers as fractions. On canonical ones the order of places is the order of
fractions, and packing loses nothing but what is too large.
-/

namespace LoginRisk.Number

open Float.Model Float.Model.UnpackedFloat

/-- The fraction that a finite number stands for, and zero for all else. -/
def value : UnpackedFloat → ℚ
  | .finite s m e _ => (s.apply m : ℤ) * 2 ^ e
  | _ => 0

/-- Zero, or a number of 53 binary digits, or one with fewer at the least exponent. The exponent may be
larger than what can be packed. -/
def Canonical : UnpackedFloat → Prop
  | .zero _ => True
  | .finite _ m e _ => m < 2 ^ 53 ∧ -1074 ≤ e ∧ (2 ^ 52 ≤ m ∨ e = -1074)
  | _ => False

lemma Canonical.isNaN {a : UnpackedFloat} (h : Canonical a) : a.isNaN = false := by
  cases a with
  | notANumber => exact h.elim
  | infinity _ | zero _ | finite _ _ _ _ => rfl

/-- A larger exponent makes up for any mantissa. -/
private lemma magnitude_lt {m₁ m₂ : ℕ} {e₁ e₂ : ℤ} (h₁ : m₁ < 2 ^ 53) (he : -1074 ≤ e₁)
    (h₂ : 2 ^ 52 ≤ m₂ ∨ e₂ = -1074) (h : e₁ < e₂ ∨ e₁ = e₂ ∧ m₁ < m₂) :
    (m₁ : ℚ) * 2 ^ e₁ < m₂ * 2 ^ e₂ := by
  rcases h with hlt | ⟨rfl, hm⟩
  · have hm₁ : (m₁ : ℚ) < 2 ^ 53 := by exact_mod_cast h₁
    have hm₂ : (2 : ℚ) ^ 52 ≤ m₂ := by exact_mod_cast h₂.resolve_right (by omega)
    calc (m₁ : ℚ) * 2 ^ e₁ < 2 ^ 53 * 2 ^ e₁ := by gcongr
      _ = 2 ^ 52 * 2 ^ (e₁ + 1) := by
        rw [zpow_add_one₀ two_ne_zero]
        ring
      _ ≤ 2 ^ 52 * 2 ^ e₂ := by
        gcongr
        · exact one_le_two
        · omega
      _ ≤ m₂ * 2 ^ e₂ := by gcongr
  · gcongr

private lemma place_positive_lt (m₁ m₂ : ℕ) (e₁ e₂ : ℤ) :
    toLex ((1 : ℤ), toLex (e₁, (m₁ : ℤ))) < toLex ((1 : ℤ), toLex (e₂, (m₂ : ℤ))) ↔
      e₁ < e₂ ∨ e₁ = e₂ ∧ m₁ < m₂ := by
  simp [Prod.Lex.toLex_lt_toLex]

private lemma place_negative_lt (m₁ m₂ : ℕ) (e₁ e₂ : ℤ) :
    toLex ((-1 : ℤ), toLex (-e₁, -(m₁ : ℤ))) < toLex ((-1 : ℤ), toLex (-e₂, -(m₂ : ℤ))) ↔
      e₂ < e₁ ∨ e₂ = e₁ ∧ m₂ < m₁ := by
  simp [Prod.Lex.toLex_lt_toLex, eq_comm]

private lemma value_positive (m : ℕ) (e : ℤ) (hm : 0 < m) :
    0 < value (.finite .positive m e hm) := by
  have : (0 : ℚ) < m := by exact_mod_cast hm
  simp only [value, Sign.apply, Int.cast_natCast]
  positivity

lemma value_negative (m : ℕ) (e : ℤ) (hm : 0 < m) :
    value (.finite .negative m e hm) < 0 := by
  have h := value_positive m e hm
  simp only [value, Sign.apply, Int.cast_neg, Int.cast_natCast, neg_mul] at h ⊢
  linarith

lemma value_lt_of_place_lt {a b : UnpackedFloat} (ha : Canonical a) (hb : Canonical b)
    (h : place a < place b) : value a < value b := by
  cases a with
  | infinity _ | notANumber => exact ha.elim
  | zero _ =>
    cases b with
    | infinity _ | notANumber => exact hb.elim
    | zero _ => exact absurd h (lt_irrefl _)
    | finite s₂ m₂ e₂ hm₂ =>
      cases s₂ with
      | negative => simp [place, Prod.Lex.toLex_lt_toLex] at h
      | positive => exact value_positive m₂ e₂ hm₂
  | finite s₁ m₁ e₁ hm₁ =>
    cases b with
    | infinity _ | notANumber => exact hb.elim
    | zero _ =>
      cases s₁ with
      | negative => exact value_negative m₁ e₁ hm₁
      | positive => simp [place, Prod.Lex.toLex_lt_toLex] at h
    | finite s₂ m₂ e₂ hm₂ =>
      cases s₁ with
      | negative =>
        cases s₂ with
        | negative =>
          have hlt := magnitude_lt hb.1 hb.2.1 ha.2.2 ((place_negative_lt m₁ m₂ e₁ e₂).mp h)
          simp only [value, Sign.apply, Int.cast_neg, Int.cast_natCast, neg_mul]
          exact neg_lt_neg hlt
        | positive => exact (value_negative m₁ e₁ hm₁).trans (value_positive m₂ e₂ hm₂)
      | positive =>
        cases s₂ with
        | negative => simp [place, Prod.Lex.toLex_lt_toLex] at h
        | positive =>
          have hlt := magnitude_lt ha.1 ha.2.1 hb.2.2 ((place_positive_lt m₁ m₂ e₁ e₂).mp h)
          simpa only [value, Sign.apply, Int.cast_natCast] using hlt

lemma value_eq_of_place_eq {a b : UnpackedFloat} (ha : Canonical a) (hb : Canonical b)
    (h : place a = place b) : value a = value b := by
  rcases a with _ | _ | _ | ⟨_ | _, m₁, e₁, hm₁⟩ <;> rcases b with _ | _ | _ | ⟨_ | _, m₂, e₂, hm₂⟩ <;>
    first
    | exact ha.elim
    | exact hb.elim
    | rfl
    | simp_all [place, value]

theorem place_le_place_iff {a b : UnpackedFloat} (ha : Canonical a) (hb : Canonical b) :
    place a ≤ place b ↔ value a ≤ value b := by
  constructor
  · intro h
    rcases h.lt_or_eq with hlt | heq
    · exact (value_lt_of_place_lt ha hb hlt).le
    · exact (value_eq_of_place_eq ha hb heq).le
  · intro h
    by_contra hlt
    exact absurd (value_lt_of_place_lt hb ha (not_le.mp hlt)) (not_lt.mpr h)

def capped : UnpackedFloat → UnpackedFloat
  | .finite s m e h => if 971 < e then .infinity s else .finite s m e h
  | a => a

lemma isNaN_capped (a : UnpackedFloat) : (capped a).isNaN = a.isNaN := by
  cases a with
  | notANumber | infinity _ | zero _ => rfl
  | finite s m e h =>
    rw [capped]
    split_ifs <;> rfl

lemma place_capped_mono {a b : UnpackedFloat} (h : place a ≤ place b) :
    place (capped a) ≤ place (capped b) := by
  rcases a with ⟨_ | _⟩ | _ | _ | ⟨_ | _, m₁, e₁, hm₁⟩ <;>
    rcases b with ⟨_ | _⟩ | _ | _ | ⟨_ | _, m₂, e₂, hm₂⟩ <;>
    simp only [capped, apply_ite place] <;> (try split_ifs) <;>
    first
    | exact le_rfl
    | (simp only [place, Prod.Lex.toLex_le_toLex] at h ⊢; omega)

private lemma toNat_ofNat {n m : ℕ} (h : m < 2 ^ n) : (BitVec.ofNat n m).toNat = m := by
  rw [BitVec.toNat_ofNat, Nat.mod_eq_of_lt h]

private lemma implicit_toNat {n : ℕ} (m : BitVec n) : (1#1 ++ m).toNat = 2 ^ n + m.toNat := by
  rw [BitVec.toNat_append, ← Nat.shiftLeft_add_eq_or_of_lt m.isLt]
  simp [Nat.shiftLeft_eq]

/-- In any format, a number with all its digits comes back from packing when there is room for its
exponent. -/
lemma unpack_pack_normal {f : Format} (s : Sign) {m : ℕ} {e : ℤ} (hm : 0 < m)
    (hlow : 2 ^ f.mantissaBitsWithoutImplicit ≤ m) (hhigh : m < 2 ^ f.mantissaBits)
    (he : 0 < e + f.exponentBias + f.mantissaBitsWithoutImplicit)
    (he' : e + f.exponentBias + f.mantissaBitsWithoutImplicit + 1 < 2 ^ f.exponentBits) :
    UnpackedFloat.unpack f (UnpackedFloat.pack f (.finite s m e hm)) = .finite s m e hm := by
  rw [Format.mantissaBits, add_comm] at hhigh
  obtain ⟨b, hb⟩ := Int.eq_ofNat_of_zero_le he.le
  have hb' : b + 1 < 2 ^ f.exponentBits := by
    rw [hb] at he'
    exact_mod_cast he'
  have hlog : m.log2 + 1 = f.mantissaBits := by
    rw [(Nat.log2_eq_iff hm.ne').mpr ⟨hlow, hhigh⟩, Format.mantissaBits, add_comm]
  have hexp : (BitVec.ofNat f.exponentBits b).toNat = b := toNat_ofNat (by omega)
  have hnot : BitVec.ofNat f.exponentBits b ≠ -1#f.exponentBits := by
    intro h
    have := congrArg BitVec.toNat h
    rw [hexp, BitVec.neg_one_eq_allOnes, BitVec.toNat_allOnes] at this
    omega
  have hpos : BitVec.ofNat f.exponentBits b ≠ 0#f.exponentBits := by
    intro h
    have := congrArg BitVec.toNat h
    rw [hexp, BitVec.toNat_zero] at this
    omega
  have hmantissa : (1#1 ++ BitVec.ofNat f.mantissaBitsWithoutImplicit m).toNat = m := by
    rw [pow_succ] at hhigh
    rw [implicit_toNat, BitVec.toNat_ofNat, Nat.mod_eq_sub_mod hlow, Nat.mod_eq_of_lt (by omega)]
    omega
  rw [UnpackedFloat.pack]
  simp only [hb, Int.toNat_natCast]
  rw [if_neg (by omega), if_pos hlog]
  simp only [UnpackedFloat.unpack, unpackExponent_packComponents, unpackMantissa_packComponents,
    unpackSign_packComponents, Sign.ofBitVec_toBitVec, hnot, hpos, if_false, hexp, hmantissa]
  congr 1
  omega

private lemma unpack_packComponents_subnormal (s : Sign) {m : ℕ} (hm : 0 < m) (h : m < 2 ^ 52) :
    UnpackedFloat.unpack .binary64 (packComponents .binary64 s 0#11 (BitVec.ofNat 52 m)) =
      .finite s m (-1074) hm := by
  have hmantissa : (BitVec.ofNat 52 m).toNat = m := toNat_ofNat h
  have hpos : BitVec.ofNat 52 m ≠ 0#52 := by
    intro h0
    have := congrArg BitVec.toNat h0
    rw [hmantissa] at this
    exact hm.ne' this
  simp only [UnpackedFloat.unpack, unpackExponent_packComponents, unpackMantissa_packComponents,
    unpackSign_packComponents, Sign.ofBitVec_toBitVec, hpos, hmantissa, dif_neg, not_false_eq_true]
  rfl

lemma unpack_pack {a : UnpackedFloat} (h : Canonical a) :
    (Float.Model.pack a).unpack = capped a := by
  cases a with
  | infinity _ | notANumber => exact h.elim
  | zero s => cases s <;> rfl
  | finite s m e hm =>
    obtain ⟨hhigh, he, hlow⟩ := h
    change UnpackedFloat.unpack .binary64 (UnpackedFloat.pack .binary64 (.finite s m e hm)) = _
    have hbiased : (e + Format.binary64.exponentBias + Format.binary64.mantissaBitsWithoutImplicit) =
        e + 1075 := by
      simp [Format.exponentBias]
      omega
    rw [capped]
    by_cases hcap : 971 < e
    · rw [UnpackedFloat.pack]
      simp only [hbiased]
      rw [if_pos hcap, if_pos (by simp; omega)]
      cases s <;> rfl
    · rw [if_neg hcap]
      by_cases hnormal : 2 ^ 52 ≤ m
      · exact unpack_pack_normal s hm hnormal hhigh (hbiased ▸ by omega) (hbiased ▸ by norm_num; omega)
      · have hlog : ¬m.log2 + 1 = Format.binary64.mantissaBits := by
          have hlt := (Nat.log2_lt hm.ne').mpr (not_le.mp hnormal)
          simp only [Format.mantissaBits]
          omega
        rw [UnpackedFloat.pack]
        simp only [hbiased]
        rw [if_neg (by simp; omega), if_neg hlog]
        obtain rfl := hlow.resolve_left hnormal
        exact unpack_packComponents_subnormal s hm (not_le.mp hnormal)

private lemma canonical_unpack_bits (b : BitVec (Format.numBits .binary64))
    (h : (UnpackedFloat.unpack .binary64 b).isFinite = true) :
    Canonical (UnpackedFloat.unpack .binary64 b) ∧
      capped (UnpackedFloat.unpack .binary64 b) = UnpackedFloat.unpack .binary64 b := by
  have hexp : (unpackExponent b).toNat < 2 ^ 11 := (unpackExponent b).isLt
  have hmant : (unpackMantissa b).toNat < 2 ^ 52 := (unpackMantissa b).isLt
  have hbias : (Format.binary64.exponentBias : ℤ) = 1023 := rfl
  rw [UnpackedFloat.unpack] at h ⊢
  dsimp only at h ⊢
  split_ifs at h ⊢ with h1 h2 h3 h4
  · cases h
  · cases h
  · exact ⟨trivial, rfl⟩
  · have hzero : (unpackExponent b).toNat = 0 := by
      rw [h3]
      rfl
    exact ⟨⟨by omega, by omega, .inr (by omega)⟩, by rw [capped, if_neg (by omega)]⟩
  · have hlt : (unpackExponent b).toNat ≠ 2047 := fun h => h1 (BitVec.eq_of_toNat_eq h)
    have hpos : (unpackExponent b).toNat ≠ 0 := fun h => h3 (BitVec.eq_of_toNat_eq h)
    have himplicit : (1#1 ++ unpackMantissa b).toNat = 2 ^ 52 + (unpackMantissa b).toNat :=
      implicit_toNat _
    exact ⟨⟨by omega, by omega, .inl (by omega)⟩, by rw [capped, if_neg (by omega)]⟩

lemma canonical_unpack {x : Float} (h : x.isFinite = true) :
    Canonical x.toModel.unpack ∧ capped x.toModel.unpack = x.toModel.unpack :=
  canonical_unpack_bits x.toModel.toBits.toBitVec h

end LoginRisk.Number
