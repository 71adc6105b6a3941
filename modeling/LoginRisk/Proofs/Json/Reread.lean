import LoginRisk.Proofs.Json.ReadBack
import Mathlib.Algebra.Group.Nat.Defs
import Mathlib.Data.List.Forall2

/-!
When a text is read at all. Texts, truth values and whole numbers always are, a float where its text alone is, and
so are the arrays and objects made of such values, up to the depth that the reader allows.
-/

namespace LoginRisk.Json

namespace Read

section Numbers

variable {cs rest after : List Char} {negative : Bool} {significand : ℕ} {exponent : ℤ} {n : JsonNumber}

lemma EndsNumber.not_isDigit (hrest : EndsNumber rest) : ∀ c ∈ rest.head?, c.isDigit = false := by
  intro c hc
  by_contra hdigit
  rw [Bool.not_eq_false] at hdigit
  have hnumeric := isNumeric_of_isDigit hdigit
  rw [hrest c hc] at hnumeric
  cases hnumeric

lemma EndsNumber.takeWhile (hrest : EndsNumber rest) (cs : List Char) :
    (cs ++ rest).takeWhile Char.isDigit = cs.takeWhile Char.isDigit := by
  have hnone : rest.takeWhile Char.isDigit = [] := by
    cases rest with
    | nil => rfl
    | cons c cs => simp [hrest.not_isDigit c rfl]
  induction cs with
  | nil => simpa using hnone
  | cons c cs ih =>
    rw [List.cons_append, List.takeWhile_cons, List.takeWhile_cons, ih]

lemma EndsNumber.dropWhile (hrest : EndsNumber rest) (cs : List Char) :
    (cs ++ rest).dropWhile Char.isDigit = cs.dropWhile Char.isDigit ++ rest := by
  have hall : rest.dropWhile Char.isDigit = rest := by
    cases rest with
    | nil => rfl
    | cons c cs => simp [hrest.not_isDigit c rfl]
  induction cs with
  | nil => simpa using hall
  | cons c cs ih =>
    rw [List.cons_append, List.dropWhile_cons, List.dropWhile_cons, ih]
    split <;> rfl

lemma EndsNumber.takeDigits (hrest : EndsNumber rest) (acc taken : ℕ) (cs : List Char) :
    takeDigits acc taken (cs ++ rest) =
      ((takeDigits acc taken cs).1, (takeDigits acc taken cs).2.1, (takeDigits acc taken cs).2.2 ++ rest) := by
  induction cs generalizing acc taken with
  | nil =>
    cases rest with
    | nil => rfl
    | cons c cs => simp [Read.takeDigits, hrest.not_isDigit c rfl]
  | cons c cs ih =>
    rw [List.cons_append, Read.takeDigits, Read.takeDigits]
    split
    · exact ih _ _
    · rfl

def exponentSign (cs : List Char) : Bool × List Char :=
  match cs with
  | '+' :: rest => (false, rest)
  | '-' :: rest => (true, rest)
  | _ => (false, cs)

def exponentSize (negative : Bool) (significand : ℕ) (start : ℤ) (negativeExponent : Bool) (cs : List Char) :
    Except ReadError (JsonNumber × List Char) :=
  let digits := cs.takeWhile Char.isDigit
  let rest := cs.dropWhile Char.isDigit
  if digits.isEmpty then
    .error (if cs.isEmpty then .unexpectedEnd else .invalidNumber)
  else
    let size := digits.foldl (fun n c => n * 10 + digitValue c) 0
    if size < 0x80000000 then do
      let exponent := if negativeExponent then start - size else start + size
      return (← floatOf negative significand exponent, rest)
    else if significand ≠ 0 && !negativeExponent then .error .numberOutOfRange
    else return (.float (if negative then -0.0 else 0.0), rest)

lemma exponentPart_eq (negative : Bool) (significand : ℕ) (start : ℤ) (cs : List Char) :
    exponentPart negative significand start cs =
      exponentSize negative significand start (exponentSign cs).1 (exponentSign cs).2 := rfl

lemma exponentSign_append (hrest : EndsNumber rest) (cs : List Char) :
    exponentSign (cs ++ rest) = ((exponentSign cs).1, (exponentSign cs).2 ++ rest) := by
  cases cs with
  | cons c tail =>
    rw [List.cons_append]
    unfold exponentSign
    split <;> split <;> simp_all
  | nil =>
    rw [List.nil_append]
    unfold exponentSign
    split
    · exact absurd (hrest '+' rfl) (by decide)
    · exact absurd (hrest '-' rfl) (by decide)
    · rfl

lemma exponentPart_append (hrest : EndsNumber rest)
    (h : exponentPart negative significand exponent cs = .ok (n, after)) :
    exponentPart negative significand exponent (cs ++ rest) = .ok (n, after ++ rest) := by
  rw [exponentPart_eq] at h
  rw [exponentPart_eq, exponentSign_append hrest]
  generalize exponentSign cs = sign at h ⊢
  obtain ⟨negativeExponent, digits⟩ := sign
  simp only [exponentSize, hrest.takeWhile, hrest.dropWhile] at h ⊢
  split at h
  · cases h
  · rename_i hdigits
    rw [if_neg hdigits]
    split at h
    · rename_i hsize
      obtain ⟨x, hx, hn⟩ := exists_of_bind_eq_ok h
      cases hn
      rw [if_pos hsize, hx]
      rfl
    · rename_i hsize
      split at h
      · cases h
      · rename_i hzero
        cases h
        rw [if_neg hsize, if_neg hzero]
        rfl

lemma EndsNumber.ne_cons (hrest : EndsNumber rest) {c : Char} (hc : isNumeric c = true)
    (h : ∀ tail, cs = c :: tail → False) (tail : List Char) : cs ++ rest ≠ c :: tail := by
  intro heq
  cases cs with
  | cons d others =>
    rw [List.cons_append, List.cons.injEq] at heq
    exact h others (congrArg (· :: others) heq.1)
  | nil =>
    rw [List.nil_append] at heq
    have hnumeric := hrest c (by rw [heq]; rfl)
    rw [hc] at hnumeric
    cases hnumeric

lemma floatEnd_append (hrest : EndsNumber rest)
    (h : floatEnd negative significand exponent cs = .ok (n, after)) :
    floatEnd negative significand exponent (cs ++ rest) = .ok (n, after ++ rest) := by
  unfold floatEnd at h
  split at h
  · exact exponentPart_append hrest h
  · exact exponentPart_append hrest h
  · rename_i hlower hupper
    obtain ⟨x, hx, hn⟩ := exists_of_bind_eq_ok h
    cases hn
    unfold floatEnd
    split
    · exact absurd ‹_› (hrest.ne_cons rfl hlower _)
    · exact absurd ‹_› (hrest.ne_cons rfl hupper _)
    · rw [hx]
      rfl

lemma fractionPart_append (hrest : EndsNumber rest)
    (h : fractionPart negative significand exponent cs = .ok (n, after)) :
    fractionPart negative significand exponent (cs ++ rest) = .ok (n, after ++ rest) := by
  cases cs with
  | nil => cases h
  | cons c tail =>
    have htaken := hrest.takeDigits significand 0 (c :: tail)
    rw [List.cons_append] at htaken ⊢
    simp only [fractionPart, htaken, hrest.dropWhile] at h ⊢
    split at h
    · cases h
    · rename_i hdigit
      rw [if_neg hdigit]
      exact floatEnd_append hrest h

def afterWhole (negative : Bool) (significand extra : ℕ) (cs : List Char) : Except ReadError (JsonNumber × List Char) :=
  match cs with
  | '.' :: fraction => fractionPart negative significand extra fraction
  | 'e' :: _ | 'E' :: _ => floatEnd negative significand extra cs
  | _ =>
    if 0 < extra then floatEnd negative significand extra cs
    else if !negative then .ok (.whole significand, cs)
    else if significand = 0 || 0x8000000000000000 < significand then .ok (.float (-(Float.ofNat significand)), cs)
    else .ok (.whole (-(significand : ℤ)), cs)

lemma number_cons (negative : Bool) (c : Char) (cs : List Char) :
    number negative (c :: cs) =
      if !c.isDigit then .error .invalidNumber
      else if c == '0' && cs.head?.any Char.isDigit then .error .invalidNumber
      else
        let taken := Read.takeDigits 0 0 (c :: cs)
        afterWhole negative taken.1 (taken.2.2.takeWhile Char.isDigit).length (taken.2.2.dropWhile Char.isDigit) := rfl

lemma afterWhole_append (hrest : EndsNumber rest) {extra : ℕ}
    (h : afterWhole negative significand extra cs = .ok (n, after)) :
    afterWhole negative significand extra (cs ++ rest) = .ok (n, after ++ rest) := by
  unfold afterWhole at h
  split at h
  · exact fractionPart_append hrest h
  · exact floatEnd_append hrest h
  · exact floatEnd_append hrest h
  · rename_i hpoint hlower hupper
    unfold afterWhole
    split
    · exact absurd ‹_› (hrest.ne_cons rfl hpoint _)
    · exact absurd ‹_› (hrest.ne_cons rfl hlower _)
    · exact absurd ‹_› (hrest.ne_cons rfl hupper _)
    · split at h
      · rename_i hextra
        rw [if_pos hextra]
        exact floatEnd_append hrest h
      · rename_i hextra
        rw [if_neg hextra]
        -- The number ends here, and all that differs is which number it is.
        split at h
        · cases h
          rw [if_pos ‹_›]
        · rw [if_neg ‹_›]
          split at h
          · cases h
            rw [if_pos ‹_›]
          · cases h
            rw [if_neg ‹_›]

lemma number_append (hrest : EndsNumber rest) (h : number negative cs = .ok (n, after)) :
    number negative (cs ++ rest) = .ok (n, after ++ rest) := by
  cases cs with
  | nil => cases h
  | cons c tail =>
    have htaken := hrest.takeDigits 0 0 (c :: tail)
    have hhead : (tail ++ rest).head?.any Char.isDigit = tail.head?.any Char.isDigit := by
      cases tail with
      | cons d tail => rfl
      | nil =>
        cases rest with
        | nil => rfl
        | cons d rest => exact hrest.not_isDigit d rfl
    rw [List.cons_append] at htaken ⊢
    rw [number_cons] at h
    rw [number_cons, htaken, hhead]
    dsimp only at h ⊢
    rw [hrest.takeWhile, hrest.dropWhile]
    split at h
    · cases h
    · rw [if_neg ‹_›]
      split at h
      · cases h
      · rw [if_neg ‹_›]
        exact afterWhole_append hrest h

lemma head_toDigits {n : ℕ} (h : 0 < n) : ∀ c ∈ (Nat.toDigits 10 n).head?, c ≠ '0' := by
  induction n using Nat.strongRecOn with
  | ind n ih =>
    rw [Nat.toDigits_eq_if (by decide)]
    split
    · rename_i hsmall
      have hall : ∀ n < 10, 0 < n → Nat.digitChar n ≠ '0' := by decide
      intro c hc
      cases hc
      exact hall n hsmall h
    · rw [List.head?_append_of_ne_nil _ Nat.toDigits_ne_nil]
      exact ih (n / 10) (by omega) (by omega)

lemma takeDigits_of_lt {ds : List Char} (hds : ∀ c ∈ ds, c.isDigit = true) (acc taken : ℕ)
    (h : Nat.ofDigitChars 10 ds acc < 2 ^ 64) :
    takeDigits acc taken ds = (Nat.ofDigitChars 10 ds acc, taken + ds.length, []) := by
  induction ds generalizing acc taken with
  | nil => rfl
  | cons d ds ih =>
    rw [List.forall_mem_cons] at hds
    rw [Nat.ofDigitChars_cons, Nat.mul_comm 10 acc] at h ⊢
    change Nat.ofDigitChars 10 ds (acc * 10 + digitValue d) < _ at h
    have hgrows : acc * 10 + digitValue d ≤ Nat.ofDigitChars 10 ds (acc * 10 + digitValue d) := by
      rw [Nat.ofDigitChars_eq_ofDigitChars_zero]
      exact (Nat.le_mul_of_pos_left _ (Nat.pow_pos (by decide))).trans (Nat.le_add_right ..)
    have hfits : (d.isDigit && decide (acc * 10 + digitValue d < 0x10000000000000000)) = true := by
      rw [hds.1, Bool.true_and, decide_eq_true_eq]
      exact hgrows.trans_lt h
    rw [takeDigits, if_pos hfits, ih hds.2 _ _ h, List.length_cons, Nat.add_right_comm, Nat.add_assoc]
    rfl

lemma number_toDigits {k : ℕ} (h : k < 2 ^ 64) : number false (Nat.toDigits 10 k) = .ok (.whole k, []) := by
  have hdigits : ∀ c ∈ Nat.toDigits 10 k, c.isDigit = true := fun c =>
    Nat.isDigit_of_mem_toDigits (by decide) (by decide)
  have htaken := takeDigits_of_lt hdigits 0 0 (by rwa [Nat.ofDigitChars_ten_toDigits])
  rw [Nat.ofDigitChars_ten_toDigits] at htaken
  obtain rfl | hpos := Nat.eq_zero_or_pos k
  · rfl
  · cases hcons : Nat.toDigits 10 k with
    | nil => exact absurd hcons Nat.toDigits_ne_nil
    | cons c tail =>
      rw [hcons] at hdigits htaken
      have hzero : (c == '0') = false := beq_eq_false_iff_ne.mpr (head_toDigits hpos c (by rw [hcons]; rfl))
      simp [number, htaken, hzero, hdigits c List.mem_cons_self]

def numeral (cs : List Char) : Except ReadError (JsonNumber × List Char) :=
  match cs with
  | '-' :: rest => number true rest
  | _ => number false cs

lemma numeral_append (hrest : EndsNumber rest) (h : numeral cs = .ok (n, after)) :
    numeral (cs ++ rest) = .ok (n, after ++ rest) := by
  unfold numeral at h
  split at h
  · exact number_append hrest h
  · rename_i hminus
    unfold numeral
    split
    · exact absurd ‹_› (hrest.ne_cons rfl hminus _)
    · exact number_append hrest h

lemma numeral_toDigits {k : ℕ} (h : k < 2 ^ 64) : numeral (Nat.toDigits 10 k) = .ok (.whole k, []) := by
  unfold numeral
  split
  · rename_i rest hminus
    have hdigit : '-' ∈ Nat.toDigits 10 k := hminus ▸ List.mem_cons_self
    exact absurd (Nat.isDigit_of_mem_toDigits (by decide) (by decide) hdigit) (by decide)
  · exact number_toDigits h

lemma suffix_of_numeral (h : numeral cs = .ok (n, after)) : after <:+ cs := by
  unfold numeral at h
  split at h
  · obtain ⟨passed, rfl, -⟩ := passes_number h
    exact ⟨'-' :: passed, rfl⟩
  · obtain ⟨passed, rfl, -⟩ := passes_number h
    exact ⟨passed, rfl⟩

lemma number_bind_eq_ok_iff (x : Except ReadError (JsonNumber × List Char)) {j : Json} :
    (do let (n, rest) ← x; return (Json.number n, rest)) = Except.ok (j, after) ↔
      ∃ n, x = .ok (n, after) ∧ j = .number n := by
  constructor
  · intro h
    obtain ⟨⟨n, rest⟩, hx, h⟩ := exists_of_bind_eq_ok h
    cases h
    exact ⟨n, hx, rfl⟩
  · rintro ⟨n, rfl, rfl⟩
    rfl

/-- A value whose text starts as a number is that number. -/
lemma value_eq_ok_iff {c : Char} (hc : isNumeric c = true) {fuel depth : ℕ} {j : Json} :
    Read.value (fun _ _ => false) (fuel + 1) depth (c :: cs) = .ok (j, after) ↔
      ∃ n, numeral (c :: cs) = .ok (n, after) ∧ j = .number n := by
  rw [Read.value, skipSpace_of_isNumeric hc]
  -- No other value starts with such a character.
  split
  all_goals
    rename_i heq
    cases heq
  all_goals first | exact absurd hc (by decide) | skip
  · exact number_bind_eq_ok_iff (number true cs)
  · rename_i hminus heq
    have hnumeral : numeral (c :: cs) = number false (c :: cs) := by
      unfold numeral
      split
      · rename_i heq
        cases heq
        contradiction
      · rfl
    rw [hnumeral]
    split
    · rename_i hdigit
      rw [Bool.not_eq_true'] at hdigit
      simp [number, hdigit]
    · exact number_bind_eq_ok_iff (number false (c :: cs))

end Numbers
end Read

open Read

/-- The text of a value is read as another value, whatever stands behind it. -/
def Rereads (depth : ℕ) (j j' : Json) : Prop :=
  ∀ (fuel : ℕ) (rest : List Char), j.chars.length ≤ fuel → EndsNumber rest →
    Read.value (fun _ _ => false) fuel depth (j.chars ++ rest) = .ok (j', rest)

section Leaves

variable {depth : ℕ}

lemma exists_fuel {j : Json} {fuel : ℕ} (h : j.chars.length ≤ fuel) : ∃ less, fuel = less + 1 := by
  obtain ⟨c, cs, hcs, -⟩ := exists_chars_cons j
  rw [hcs, List.length_cons] at h
  exact Nat.exists_eq_add_one.mpr (Nat.zero_lt_of_lt h)

lemma rereads_word {j v : Json} {w : String} (hj : j.chars = w.toList) {c : Char} {cs : List Char}
    (hw : w.toList = c :: cs)
    (hread : ∀ fuel rest, Read.value (fun _ _ => false) (fuel + 1) depth (c :: rest) = word w v (c :: rest)) :
    Rereads depth j v := by
  intro fuel rest hfuel _
  obtain ⟨less, rfl⟩ := exists_fuel hfuel
  have hword := word_append w v rest
  rw [hw, List.cons_append] at hword
  rw [hj, hw, List.cons_append, hread, hword]

lemma rereads_null {j : Json} (hj : j.chars = "null".toList) : Rereads depth j .null :=
  rereads_word hj rfl fun fuel rest => by
    rw [Read.value]
    rfl

lemma rereads_bool (b : Bool) : Rereads depth (.bool b) (.bool b) := by
  cases b with
  | false =>
    exact rereads_word (w := "false") rfl rfl fun fuel rest => by
      rw [Read.value]
      rfl
  | true =>
    exact rereads_word (w := "true") rfl rfl fun fuel rest => by
      rw [Read.value]
      rfl

lemma value_quote (fuel : ℕ) (cs : List Char) :
    Read.value (fun _ _ => false) (fuel + 1) depth ('"' :: cs) = (do
      let (s, rest) ← Read.string cs
      return (.string s, rest)) := by
  rw [Read.value]
  rfl

lemma rereads_string (s : String) : Rereads depth (.string s) (.string s) := by
  intro fuel rest hfuel _
  obtain ⟨less, rfl⟩ := exists_fuel hfuel
  rw [chars_string, value_quote, string_quoted]
  rfl

lemma rereads_numeral {j : Json} (hj : IsNumeral j.chars) {n : JsonNumber} (h : numeral j.chars = .ok (n, [])) :
    Rereads depth j (.number n) := by
  intro fuel rest hfuel hrest
  obtain ⟨less, rfl⟩ := exists_fuel hfuel
  have happend := numeral_append hrest h
  obtain ⟨hnil, hnumeric⟩ := hj
  cases hcs : j.chars with
  | nil => exact absurd hcs hnil
  | cons c cs =>
    rw [hcs] at happend hnumeric
    exact (value_eq_ok_iff (hnumeric c List.mem_cons_self)).mpr ⟨n, happend, rfl⟩

lemma rereads_nat {n : ℕ} (h : n < 2 ^ 64) : Rereads depth (.nat n) (.nat n) := by
  have hchars : (Json.nat n).chars = Nat.toDigits 10 n := Nat.toList_repr
  have hnumeral : IsNumeral (Json.nat n).chars := isNumeral_toString n
  exact rereads_numeral hnumeral (hchars ▸ numeral_toDigits h)

/-- A number that is read from its text alone is read from it in every place. -/
lemma rereads_number {j j' : Json} (hj : IsNumeral j.chars) (h : read j.compact = .ok j') : Rereads depth j j' := by
  obtain ⟨⟨found, after⟩, hvalue, h⟩ := exists_of_bind_eq_ok h
  dsimp only at h
  split at h <;> cases h
  rename_i hempty
  change Read.value _ (2 * j.chars.length + 1 + 1) deepest j.chars = _ at hvalue
  cases hcs : j.chars with
  | nil => exact absurd hcs hj.1
  | cons c cs =>
    have hnumeric := hj.2
    rw [hcs] at hvalue hnumeric
    obtain ⟨n, hn, rfl⟩ := (value_eq_ok_iff (hnumeric c List.mem_cons_self)).mp hvalue
    obtain ⟨passed, hpassed⟩ := suffix_of_numeral hn
    have hafter : after = [] := by
      cases after with
      | nil => rfl
      | cons d after =>
        have hd : isNumeric d = true := hnumeric d (hpassed ▸ by simp)
        rw [skipSpace_of_isNumeric hd] at hempty
        cases hempty
    rw [hafter, ← hcs] at hn
    exact rereads_numeral hj hn

end Leaves

section Containers

variable {depth : ℕ}

lemma items_comma (fuel : ℕ) (done : List Json) (cs : List Char) :
    Read.items (fun _ _ => false) (fuel + 1) depth done (',' :: cs) = (do
      let (next, rest) ← Read.value (fun _ _ => false) fuel depth cs
      Read.items (fun _ _ => false) fuel depth (next :: done) rest) := by
  rw [Read.items]
  rfl

lemma items_of_rereads {js js' : List Json} (h : List.Forall₂ (Rereads depth) js js') (fuel : ℕ)
    (done : List Json) (rest : List Char) (hfuel : (itemsEnd js []).length ≤ fuel) :
    Read.items (fun _ _ => false) fuel depth done (itemsEnd js rest) = .ok (done.reverse ++ js', rest) := by
  induction h generalizing fuel done with
  | nil =>
    obtain ⟨less, rfl⟩ := Nat.exists_eq_add_one.mpr (show 0 < fuel from hfuel)
    change Read.items _ _ _ _ (']' :: rest) = _
    rw [Read.items, List.append_nil]
    rfl
  | @cons j j' js js' hfirst _ ih =>
    rw [itemsEnd_cons, List.length_cons, List.length_append] at hfuel
    obtain ⟨less, rfl⟩ := Nat.exists_eq_add_one.mpr (Nat.zero_lt_of_lt hfuel)
    have hrest := ih less (j' :: done) (by omega)
    rw [List.reverse_cons, List.append_assoc, List.singleton_append] at hrest
    rw [itemsEnd_cons, items_comma, hfirst less _ (by omega) (endsNumber_itemsEnd js rest), ← hrest, ok_bind]

lemma rereads_array {items items' : List Json} (h : List.Forall₂ (Rereads depth) items items') :
    Rereads (depth + 1) (.array items) (.array items') := by
  intro fuel rest hfuel hrest
  obtain ⟨less, rfl⟩ := exists_fuel hfuel
  cases h with
  | nil =>
    change Read.value _ _ _ ('[' :: ']' :: rest) = _
    rw [Read.value]
    rfl
  | @cons j j' js js' hfirst hothers =>
    have hlength := congrArg List.length (chars_array j js [])
    rw [List.append_nil, List.length_cons, List.length_append] at hlength
    rw [chars_array, value_array, if_neg (Nat.succ_ne_zero depth), Nat.add_sub_cancel,
      hfirst less _ (by omega) (endsNumber_itemsEnd js rest), ok_bind]
    dsimp only
    rw [items_of_rereads hothers less [j'] rest (by omega)]
    rfl

def MemberRereads (depth : ℕ) (m m' : String × Json) : Prop := m.1 = m'.1 ∧ Rereads depth m.2 m'.2

lemma member_quote (fuel : ℕ) (cs : List Char) :
    Read.member (fun _ _ => false) (fuel + 1) depth ('"' :: cs) = (do
      let (name, rest) ← Read.string cs
      match skipSpace rest with
      | ':' :: rest =>
        let (v, rest) ← Read.value (fun _ _ => false) fuel depth rest
        return ((name, v), rest)
      | [] => .error .unexpectedEnd
      | _ => .error .unexpectedCharacter) := by
  rw [Read.member]
  rfl

lemma member_colon (name : String) (fuel : ℕ) (cs : List Char) :
    Read.member (fun _ _ => false) (fuel + 1) depth ('"' :: (name.toList.flatMap escapeChar ++ '"' :: ':' :: cs)) = (do
      let (v, rest) ← Read.value (fun _ _ => false) fuel depth cs
      return ((name, v), rest)) := by
  rw [member_quote, string_quoted]
  rfl

lemma member_of_rereads {m m' : String × Json} (h : MemberRereads depth m m') {fuel : ℕ} {rest : List Char}
    (hfuel : (memberChars m).length ≤ fuel) (hrest : EndsNumber rest) :
    Read.member (fun _ _ => false) fuel depth (memberChars m ++ rest) = .ok (m', rest) := by
  obtain ⟨name, j⟩ := m
  obtain ⟨name', j'⟩ := m'
  obtain ⟨rfl, hvalue⟩ := h
  dsimp only at hvalue
  have hlength : j.chars.length + 1 ≤ (memberChars (name, j)).length := by
    simp only [memberChars, List.length_cons, List.length_append]
    omega
  obtain ⟨less, rfl⟩ := Nat.exists_eq_add_one.mpr (show 0 < fuel by omega)
  have hchars : memberChars (name, j) ++ rest =
      '"' :: (name.toList.flatMap escapeChar ++ '"' :: ':' :: (j.chars ++ rest)) := by
    simp [memberChars]
  rw [hchars, member_colon, hvalue less rest (by omega) hrest]
  rfl

lemma members_comma (fuel : ℕ) (done : List (String × Json)) (cs : List Char) :
    Read.members (fun _ _ => false) (fuel + 1) depth done (',' :: cs) = (do
      let (next, rest) ← Read.member (fun _ _ => false) fuel depth cs
      Read.members (fun _ _ => false) fuel depth (next :: done) rest) := by
  rw [Read.members]
  rfl

lemma members_of_rereads {ms ms' : List (String × Json)} (h : List.Forall₂ (MemberRereads depth) ms ms') (fuel : ℕ)
    (done : List (String × Json)) (rest : List Char) (hfuel : (membersEnd ms []).length ≤ fuel) :
    Read.members (fun _ _ => false) fuel depth done (membersEnd ms rest) = .ok (done.reverse ++ ms', rest) := by
  induction h generalizing fuel done with
  | nil =>
    obtain ⟨less, rfl⟩ := Nat.exists_eq_add_one.mpr (show 0 < fuel from hfuel)
    change Read.members _ _ _ _ ('\x7d' :: rest) = _
    rw [Read.members, List.append_nil]
    rfl
  | @cons m m' ms ms' hfirst _ ih =>
    rw [membersEnd_cons, List.length_cons, List.length_append] at hfuel
    obtain ⟨less, rfl⟩ := Nat.exists_eq_add_one.mpr (Nat.zero_lt_of_lt hfuel)
    have hrest := ih less (m' :: done) (by omega)
    rw [List.reverse_cons, List.append_assoc, List.singleton_append] at hrest
    rw [membersEnd_cons, members_comma, member_of_rereads hfirst (by omega) (endsNumber_membersEnd ms rest), ← hrest,
      ok_bind]

lemma rereads_object {members members' : List (String × Json)}
    (h : List.Forall₂ (MemberRereads depth) members members') :
    Rereads (depth + 1) (.object members) (.object members') := by
  intro fuel rest hfuel hrest
  obtain ⟨less, rfl⟩ := exists_fuel hfuel
  cases h with
  | nil =>
    change Read.value _ _ _ ('\x7b' :: '\x7d' :: rest) = _
    rw [Read.value]
    rfl
  | @cons m m' ms ms' hfirst hothers =>
    have hlength := congrArg List.length (chars_object m ms [])
    rw [List.append_nil, List.length_cons, List.length_append] at hlength
    rw [chars_object, value_object, if_neg (Nat.succ_ne_zero depth), Nat.add_sub_cancel,
      member_of_rereads hfirst (by omega) (endsNumber_membersEnd ms rest), ok_bind]
    dsimp only
    rw [members_of_rereads hothers less [m'] rest (by omega)]
    rfl

end Containers

lemma Rereads.unique {depth : ℕ} {j a b : Json} (ha : Rereads depth j a) (hb : Rereads depth j b) : a = b := by
  have hend : EndsNumber [] := by simp [EndsNumber]
  have hsame := (ha j.chars.length [] le_rfl hend).symm.trans (hb j.chars.length [] le_rfl hend)
  cases hsame
  rfl

theorem read_compact {j j' : Json} (h : Rereads deepest j j') : read j.compact = .ok j' := by
  have hend : EndsNumber [] := by simp [EndsNumber]
  have hvalue := h (2 * j.chars.length + 2) [] (by omega) hend
  rw [List.append_nil] at hvalue
  unfold chars at hvalue
  simp only [read, readSkipping, hvalue, ok_bind]
  rfl

end LoginRisk.Json
