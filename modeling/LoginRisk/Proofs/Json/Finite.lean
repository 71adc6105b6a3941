import LoginRisk.Json.Decode
import LoginRisk.Json.Reader
import LoginRisk.Proofs.Assoc
import LoginRisk.Proofs.Except
import LoginRisk.Proofs.Number.Sign

/-!
Numbers that are read from JSON text are finite: what would be too large is refused, and text has no
other way to write what is no number.
-/

namespace LoginRisk

namespace Number

open Float.Model Float.Model.UnpackedFloat

/-- Beyond those that are kept in a table, a power of ten is rounded once. -/
lemma isRounding_ofScientific_one {n : ℕ} (h22 : 22 < n) (h308 : n ≤ 308) :
    IsRounding (Float.ofScientific 1 false n) (10 ^ n : ℕ) := by
  have hten : 0 < 10 ^ n := Nat.pow_pos (by decide)
  have hpos : (0 : ℚ) < ((1 <<< 53) * 10 ^ n : ℕ) := by
    exact_mod_cast Nat.mul_pos (by decide) hten
  have hp : Precise ((1 <<< 53) * 10 ^ n) (-53 + 0) :=
    .inl (le_trans (by decide) (Nat.le_mul_of_pos_right _ hten))
  have hq : ((Sign.positive.apply 1 : ℤ) : ℚ) *
      (((1 <<< 53) * 10 ^ n : ℕ) * 2 ^ (-53 + 0 : ℤ)) = (10 ^ n : ℕ) := by
    rw [Nat.shiftLeft_eq, add_zero, zpow_neg]
    simp only [Sign.apply]
    push_cast
    field_simp
  have h := roundsTo_roundWithAccuracy .positive hpos (represents_natCast _) hp
  rw [hq] at h
  have hof : UnpackedFloat.ofScientific .binary64 1 n =
      roundWithAccuracy .binary64 .positive ((1 <<< 53) * 10 ^ n) (-53 + 0) .exact := by
    have hexponentBits : Format.binary64.exponentBits = 11 := rfl
    rw [UnpackedFloat.ofScientific, dif_neg one_ne_zero, hexponentBits, if_neg (by omega),
      if_neg (by omega), if_pos (by omega)]
    rfl
  rw [Float.ofScientific, dif_neg (by omega)]
  change IsRounding (.ofModel (.pack (UnpackedFloat.ofScientific .binary64 1 n))) _
  rw [hof]
  exact isRounding_ofModel_pack h

lemma isFinite_of_not_isInf {x : Float} (hinf : x.isInf = false) (hnan : x.isNaN = false) :
    x.isFinite = true := by
  change x.toModel.unpack.isInf = false at hinf
  change x.toModel.unpack.isNaN = false at hnan
  change x.toModel.unpack.isFinite = true
  generalize x.toModel.unpack = a at hinf hnan
  cases a with
  | zero _ | finite _ _ _ _ => rfl
  | infinity _ => cases hinf
  | notANumber => cases hnan

lemma isFinite_div_of_one_le {x y : Float} (hx : x.isFinite = true) (hx0 : 0.0 ≤ x) (hy : y.isFinite = true)
    (hy1 : 1.0 ≤ y) : (x / y).isFinite = true ∧ 0.0 ≤ x / y := by
  rw [← exact_le_exact_iff rfl hx, exact_zero] at hx0
  rw [← exact_le_exact_iff rfl hy, exact_one] at hy1
  have hdiv := isRounding_div hx hy (by linarith)
  have hnonneg : 0.0 ≤ x / y := by
    refine (isRounding_exact rfl).mono hdiv ?_
    rw [exact_zero]
    exact div_nonneg hx0 (by linarith)
  exact ⟨isFinite_of_le_of_le rfl hx hnonneg
    (hdiv.mono (isRounding_exact hx) (div_le_self hx0 hy1)), hnonneg⟩

end Number

namespace JsonNumber

open Number

def IsFinite (n : JsonNumber) : Prop := n.toFloat.isFinite = true

lemma isFinite_whole {n : ℕ} (h : n < 2 ^ 64) : IsFinite (.whole n) := isFinite_ofNat h

lemma isFinite_whole_neg {n : ℕ} (h : n < 2 ^ 64) : IsFinite (.whole (-n)) := by
  cases n with
  | zero => exact isFinite_ofNat h
  | succ n =>
    change (-(Float.ofNat (n + 1))).isFinite = true
    rw [isFinite_neg]
    exact isFinite_ofNat h

end JsonNumber

namespace Json

open Number

namespace Read

private lemma powerOfTen_mono {m n : ℕ} (hm : 22 < m) (hmn : m ≤ n) (hn : n ≤ 308) :
    powerOfTen m ≤ powerOfTen n :=
  (isRounding_ofScientific_one hm (hmn.trans hn)).mono (isRounding_ofScientific_one (hm.trans_le hmn) hn)
    (Nat.cast_le.mpr (Nat.pow_le_pow_right (by decide) hmn))

lemma powerOfTen_bounds {n : ℕ} (h : n ≤ 308) : (powerOfTen n).isFinite = true ∧ 1.0 ≤ powerOfTen n := by
  have htable : ∀ n < 23, (powerOfTen n).isFinite = true ∧ 1.0 ≤ powerOfTen n := by decide +kernel
  by_cases h22 : n ≤ 22
  · exact htable n (by omega)
  · have hn := isRounding_ofScientific_one (by omega) h
    have hone : 1.0 ≤ powerOfTen n := by
      refine (isRounding_exact rfl).mono hn ?_
      rw [exact_one]
      exact_mod_cast Nat.one_le_pow _ _ (by decide)
    have hlast : powerOfTen n ≤ powerOfTen 308 := powerOfTen_mono (by omega) h le_rfl
    exact ⟨isFinite_of_le_of_le rfl (by decide +kernel) hone hlast, hone⟩

lemma isFinite_scale {fuel : ℕ} {x y : Float} {exponent : ℤ} (hx : x.isFinite = true) (hx0 : 0.0 ≤ x)
    (h : scale fuel x exponent = .ok y) : y.isFinite = true := by
  induction fuel generalizing x exponent with
  | zero =>
    cases h
    exact hx
  | succ fuel ih =>
    rw [scale] at h
    split at h
    · rename_i hsmall
      obtain ⟨hpower, hone⟩ := powerOfTen_bounds hsmall
      split at h
      · dsimp only at h
        split at h
        · cases h
        · rename_i hinf
          cases h
          exact isFinite_of_not_isInf (by simpa using hinf) (isRounding_mul hx hpower).isNaN
      · cases h
        exact (isFinite_div_of_one_le hx hx0 hpower hone).1
    · split at h
      · cases h
        exact hx
      · split at h
        · cases h
        · obtain ⟨hpower, hone⟩ := powerOfTen_bounds (le_refl 308)
          obtain ⟨hdiv, hdiv0⟩ := isFinite_div_of_one_le hx hx0 hpower hone
          exact ih hdiv hdiv0 h

lemma isFinite_floatOf {negative : Bool} {significand : ℕ} {exponent : ℤ} {n : JsonNumber}
    (hs : significand < 2 ^ 64) (h : floatOf negative significand exponent = .ok n) : n.IsFinite := by
  obtain ⟨x, hx, hn⟩ := exists_of_bind_eq_ok h
  have hfinite := isFinite_scale (isFinite_ofNat hs) (ofNat_nonneg _) hx
  cases hn
  change (if negative = true then -x else x).isFinite = true
  split
  · rwa [isFinite_neg]
  · exact hfinite

lemma takeDigits_lt {acc : ℕ} (h : acc < 2 ^ 64) (taken : ℕ) (cs : List Char) :
    (takeDigits acc taken cs).1 < 2 ^ 64 := by
  induction cs generalizing acc taken with
  | nil => exact h
  | cons c cs ih =>
    rw [takeDigits]
    split
    · rename_i hc
      rw [Bool.and_eq_true, decide_eq_true_eq] at hc
      exact ih hc.2 _
    · exact h

lemma isFinite_exponentPart {negative : Bool} {significand : ℕ} {start : ℤ} {cs rest : List Char}
    {n : JsonNumber} (hs : significand < 2 ^ 64)
    (h : exponentPart negative significand start cs = .ok (n, rest)) : n.IsFinite := by
  unfold exponentPart at h
  dsimp only at h
  -- The sign of the exponent does not matter.
  split at h <;> dsimp only at h <;> split at h
  all_goals first | cases h | skip
  all_goals
    split at h
    · obtain ⟨x, hx, hn⟩ := exists_of_bind_eq_ok h
      cases hn
      exact isFinite_floatOf hs hx
    · split at h
      · cases h
      · cases h
        cases negative <;> rfl

lemma isFinite_floatEnd {negative : Bool} {significand : ℕ} {exponent : ℤ} {cs rest : List Char}
    {n : JsonNumber} (hs : significand < 2 ^ 64)
    (h : floatEnd negative significand exponent cs = .ok (n, rest)) : n.IsFinite := by
  unfold floatEnd at h
  split at h
  · exact isFinite_exponentPart hs h
  · exact isFinite_exponentPart hs h
  · obtain ⟨x, hx, hn⟩ := exists_of_bind_eq_ok h
    cases hn
    exact isFinite_floatOf hs hx

lemma isFinite_fractionPart {negative : Bool} {significand : ℕ} {start : ℤ} {cs rest : List Char}
    {n : JsonNumber} (hs : significand < 2 ^ 64)
    (h : fractionPart negative significand start cs = .ok (n, rest)) : n.IsFinite := by
  cases cs with
  | nil => cases h
  | cons c tail =>
    have hlt : (takeDigits significand 0 (c :: tail)).1 < 2 ^ 64 := takeDigits_lt hs _ _
    simp only [fractionPart] at h
    generalize takeDigits significand 0 (c :: tail) = taken at h hlt
    split at h
    · cases h
    · exact isFinite_floatEnd hlt h

lemma isFinite_number {negative : Bool} {cs rest : List Char} {n : JsonNumber}
    (h : number negative cs = .ok (n, rest)) : n.IsFinite := by
  cases cs with
  | nil => cases h
  | cons c tail =>
    have hs : (takeDigits 0 0 (c :: tail)).1 < 2 ^ 64 := takeDigits_lt (by decide) _ _
    simp only [number] at h
    generalize takeDigits 0 0 (c :: tail) = taken at h hs
    obtain ⟨significand, count, after⟩ := taken
    dsimp only at h hs
    generalize (after.takeWhile Char.isDigit).length = extra at h
    generalize after.dropWhile Char.isDigit = after at h
    split at h
    · cases h
    · split at h
      · cases h
      · split at h
        · exact isFinite_fractionPart hs h
        · exact isFinite_floatEnd hs h
        · exact isFinite_floatEnd hs h
        · split at h
          · exact isFinite_floatEnd hs h
          · split at h
            · cases h
              exact JsonNumber.isFinite_whole hs
            · split at h
              · cases h
                change (-(Float.ofNat significand)).isFinite = true
                rw [isFinite_neg]
                exact isFinite_ofNat hs
              · cases h
                exact JsonNumber.isFinite_whole_neg hs

end Read

inductive AllFinite : Json → Prop
  | null : AllFinite .null
  | bool (b : Bool) : AllFinite (.bool b)
  | string (s : String) : AllFinite (.string s)
  | number {n : JsonNumber} (h : n.IsFinite) : AllFinite (.number n)
  | array {items : List Json} (h : ∀ j ∈ items, AllFinite j) : AllFinite (.array items)
  | object {members : List (String × Json)} (h : ∀ m ∈ members, AllFinite m.2) : AllFinite (.object members)

namespace Read

/-- What the four readers give from some fuel holds finite numbers only. -/
structure ReadsFinite (skips : ℕ → String → Bool) (fuel : ℕ) : Prop where
  value : ∀ {depth cs j rest}, value skips fuel depth cs = .ok (j, rest) → AllFinite j
  items : ∀ {depth done cs js rest}, (∀ j ∈ done, AllFinite j) →
    items skips fuel depth done cs = .ok (js, rest) → ∀ j ∈ js, AllFinite j
  member : ∀ {depth cs m rest}, member skips fuel depth cs = .ok (m, rest) → AllFinite m.2
  members : ∀ {depth done cs ms rest}, (∀ m ∈ done, AllFinite m.2) →
    members skips fuel depth done cs = .ok (ms, rest) → ∀ m ∈ ms, AllFinite m.2

variable {skips : ℕ → String → Bool} {fuel depth : ℕ} {cs rest : List Char}

lemma allFinite_word {w : String} {v j : Json} (hv : AllFinite v) (h : word w v cs = .ok (j, rest)) :
    AllFinite j := by
  unfold word at h
  split at h <;> cases h
  exact hv

lemma ReadsFinite.value_succ (ih : ReadsFinite skips fuel) {j : Json}
    (h : Read.value skips (fuel + 1) depth cs = .ok (j, rest)) : AllFinite j := by
  rw [Read.value] at h
  split at h
  · cases h
  · exact allFinite_word .null h
  · exact allFinite_word (.bool true) h
  · exact allFinite_word (.bool false) h
  · obtain ⟨⟨s, rest'⟩, -, heq⟩ := exists_of_bind_eq_ok h
    cases heq
    exact .string s
  · split at h
    · cases h
    · split at h
      · cases h
        exact .array (by simp)
      · obtain ⟨⟨first, rest'⟩, hfirst, h⟩ := exists_of_bind_eq_ok h
        obtain ⟨⟨items, rest''⟩, hitems, heq⟩ := exists_of_bind_eq_ok h
        cases heq
        exact .array (ih.items (by simpa using ih.value hfirst) hitems)
  · split at h
    · cases h
    · split at h
      · cases h
        exact .object (by simp)
      · obtain ⟨⟨first, rest'⟩, hfirst, h⟩ := exists_of_bind_eq_ok h
        obtain ⟨⟨members, rest''⟩, hmembers, heq⟩ := exists_of_bind_eq_ok h
        cases heq
        exact .object (ih.members (by simpa using ih.member hfirst) hmembers)
  · obtain ⟨⟨n, rest'⟩, hn, heq⟩ := exists_of_bind_eq_ok h
    cases heq
    exact .number (isFinite_number hn)
  · split at h
    · cases h
    · obtain ⟨⟨n, rest'⟩, hn, heq⟩ := exists_of_bind_eq_ok h
      cases heq
      exact .number (isFinite_number hn)

lemma ReadsFinite.items_succ (ih : ReadsFinite skips fuel) {done js : List Json}
    (hdone : ∀ j ∈ done, AllFinite j) (h : Read.items skips (fuel + 1) depth done cs = .ok (js, rest)) :
    ∀ j ∈ js, AllFinite j := by
  rw [Read.items] at h
  split at h
  · cases h
    simpa using hdone
  · obtain ⟨⟨next, rest'⟩, hnext, h⟩ := exists_of_bind_eq_ok h
    exact ih.items (List.forall_mem_cons.mpr ⟨ih.value hnext, hdone⟩) h
  · cases h
  · cases h

lemma ReadsFinite.member_succ (ih : ReadsFinite skips fuel) {m : String × Json}
    (h : Read.member skips (fuel + 1) depth cs = .ok (m, rest)) : AllFinite m.2 := by
  rw [Read.member] at h
  split at h
  · obtain ⟨⟨name, rest'⟩, -, h⟩ := exists_of_bind_eq_ok h
    dsimp only at h
    split at h
    · split at h
      · obtain ⟨rest'', -, heq⟩ := exists_of_bind_eq_ok h
        cases heq
        exact .null
      · obtain ⟨⟨v, rest''⟩, hv, heq⟩ := exists_of_bind_eq_ok h
        cases heq
        exact ih.value hv
    · cases h
    · cases h
  · cases h
  · cases h

lemma ReadsFinite.members_succ (ih : ReadsFinite skips fuel) {done ms : List (String × Json)}
    (hdone : ∀ m ∈ done, AllFinite m.2)
    (h : Read.members skips (fuel + 1) depth done cs = .ok (ms, rest)) : ∀ m ∈ ms, AllFinite m.2 := by
  rw [Read.members] at h
  split at h
  · cases h
    simpa using hdone
  · obtain ⟨⟨next, rest'⟩, hnext, h⟩ := exists_of_bind_eq_ok h
    exact ih.members (List.forall_mem_cons.mpr ⟨ih.member hnext, hdone⟩) h
  · cases h
  · cases h

lemma readsFinite (skips : ℕ → String → Bool) (fuel : ℕ) : ReadsFinite skips fuel := by
  induction fuel with
  | zero =>
    refine ⟨fun h => ?_, fun _ h => ?_, fun h => ?_, fun _ h => ?_⟩
    · rw [Read.value] at h
      cases h
    · rw [Read.items] at h
      cases h
    · rw [Read.member] at h
      cases h
    · rw [Read.members] at h
      cases h
  | succ fuel ih => exact ⟨ih.value_succ, ih.items_succ, ih.member_succ, ih.members_succ⟩

end Read

/-- No text makes a number that is not finite. -/
theorem allFinite_read {text : String} {j : Json} (h : read text = .ok j) : AllFinite j := by
  obtain ⟨⟨j', rest⟩, hvalue, heq⟩ := exists_of_bind_eq_ok h
  dsimp only at heq
  split at heq <;> cases heq
  exact (Read.readsFinite _ _).value hvalue

lemma Fields.allFinite_of {names : List String} {j : Json} {f : Fields} (hj : AllFinite j)
    (h : Fields.of names j = .ok f) : ∀ m ∈ f.given, AllFinite m.2 := by
  unfold Fields.of at h
  cases hj with
  | object hmembers =>
    dsimp only at h
    split at h <;> cases h
    exact fun m hm => hmembers m (List.mem_filter.mp hm).1
  | array hitems =>
    dsimp only at h
    split at h <;> cases h
    exact fun m hm => hitems _ (List.of_mem_zip hm).2
  | null => cases h
  | bool _ => cases h
  | string _ => cases h
  | number _ => cases h

lemma Fields.isFinite_required {f : Fields} {name : String} {x : Float}
    (hf : ∀ m ∈ f.given, AllFinite m.2) (h : f.required name Decode.float = .ok x) :
    x.isFinite = true := by
  unfold Fields.required at h
  split at h
  · rename_i j hlookup
    have hj := hf _ (Assoc.mem_of_lookup hlookup)
    cases hj with
    | number hn =>
      cases h
      exact hn
    | null => cases h
    | bool _ => cases h
    | string _ => cases h
    | array _ => cases h
    | object _ => cases h
  · cases h

end Json

end LoginRisk
