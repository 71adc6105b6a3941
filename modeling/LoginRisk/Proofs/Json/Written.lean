import LoginRisk.Json.Reader
import LoginRisk.Json.Writer
import LoginRisk.Proofs.Except
import Mathlib.Data.Int.Notation
import Mathlib.Data.List.Basic
import Mathlib.Data.List.TakeWhile

/-!
Texts and numbers as they are written, and what is read from them. A text comes back as it was. Reading a number
passes over the characters of numbers only, and a whole number is the one that its digits stand for. Every value
is written on one line.
-/

namespace LoginRisk.Json

namespace Read

section Strings

lemma escapeChar_cases (c : Char) :
    (escapeChar c = [c] ∧ c ≠ '"' ∧ c ≠ '\\' ∧ ¬c.toNat < 32) ∨
      ∃ code, escapeChar c = '\\' :: code ∧ ∀ rest, escape (code ++ rest) = .ok (c, rest) := by
  unfold escapeChar
  split
  all_goals first
    | exact .inr ⟨_, rfl, fun rest => rfl⟩
    | skip
  rename_i hquote hbackslash _ _ _ _ _
  split
  · rename_i hsmall
    refine .inr ⟨_, rfl, fun rest => ?_⟩
    have hall : ∀ n < 32, hexValue? (Nat.digitChar (n / 16)) = some (n / 16) ∧
        hexValue? (Nat.digitChar (n % 16)) = some (n % 16) := by decide
    obtain ⟨hhigh, hlow⟩ := hall c.toNat hsmall
    have hunit : hexUnit ('0' :: '0' :: Nat.digitChar (c.toNat / 16) :: Nat.digitChar (c.toNat % 16) :: rest) =
        .ok (c.toNat, rest) := by
      rw [hexUnit, hhigh, hlow]
      have hzero : hexValue? '0' = some 0 := rfl
      simp only [hzero]
      rw [show ((0 * 16 + 0) * 16 + c.toNat / 16) * 16 + c.toNat % 16 = c.toNat by omega]
    have hvalue : Char.ofNat c.toNat = c := Char.ofNat_toNat c
    simp only [List.cons_append, List.nil_append, escape, hunit, bind, Except.bind]
    rw [if_pos (by simp; omega), hvalue]
    rfl
  · exact .inl ⟨rfl, hquote, hbackslash, ‹_›⟩

lemma stringBody_flatMap_escapeChar (cs : List Char) {fuel : ℕ} (h : cs.length < fuel) (done rest : List Char) :
    stringBody fuel done (cs.flatMap escapeChar ++ '"' :: rest) = .ok (.ofList (done.reverse ++ cs), rest) := by
  induction cs generalizing fuel done with
  | nil =>
    obtain ⟨fuel, rfl⟩ := Nat.exists_eq_add_one.mpr h
    simp [stringBody]
  | cons c cs ih =>
    obtain ⟨fuel, rfl⟩ := Nat.exists_eq_add_one.mpr (Nat.zero_lt_of_lt h)
    have hrest := ih (Nat.lt_of_succ_lt_succ h) (c :: done)
    rw [List.reverse_cons, List.append_assoc, List.singleton_append] at hrest
    rw [List.flatMap_cons, List.append_assoc]
    obtain ⟨hplain, hquote, hbackslash, hlarge⟩ | ⟨code, hcode, hescape⟩ := escapeChar_cases c
    · rw [hplain, List.singleton_append, stringBody]
      simp only [beq_iff_eq, hquote, hbackslash, hlarge, if_false, hrest]
    · rw [hcode, List.cons_append, stringBody]
      simp [hescape, hrest]

lemma string_quoted (s : String) (rest : List Char) :
    string (s.toList.flatMap escapeChar ++ '"' :: rest) = .ok (s, rest) := by
  have hlength (cs : List Char) : cs.length ≤ (cs.flatMap escapeChar).length := by
    induction cs with
    | nil => simp
    | cons c cs ih =>
      have hone : 1 ≤ (escapeChar c).length := by
        obtain ⟨hplain, -⟩ | ⟨code, hcode, -⟩ := escapeChar_cases c
        · simp [hplain]
        · simp [hcode]
      rw [List.flatMap_cons, List.length_append, List.length_cons]
      omega
  have hfuel : s.toList.length < (s.toList.flatMap escapeChar ++ '"' :: rest).length + 1 := by
    have := hlength s.toList
    rw [List.length_append]
    omega
  rw [string, stringBody_flatMap_escapeChar _ hfuel, List.reverse_nil, List.nil_append, String.ofList_toList]

end Strings

section Numbers

def isNumeric (c : Char) : Bool := c.isDigit || ['-', '+', '.', 'e', 'E'].contains c

lemma isNumeric_of_isDigit {c : Char} (h : c.isDigit = true) : isNumeric c = true := by
  rw [isNumeric, h, Bool.true_or]

/-- Reading passes over characters of a number only. -/
def Passes (cs rest : List Char) : Prop := ∃ passed, cs = passed ++ rest ∧ ∀ c ∈ passed, isNumeric c = true

variable {cs rest after : List Char}

lemma passes_refl (cs : List Char) : Passes cs cs := ⟨[], rfl, by simp⟩

lemma Passes.trans (h : Passes cs rest) (h' : Passes rest after) : Passes cs after := by
  obtain ⟨first, rfl, hfirst⟩ := h
  obtain ⟨last, rfl, hlast⟩ := h'
  exact ⟨first ++ last, (List.append_assoc ..).symm, List.forall_mem_append.mpr ⟨hfirst, hlast⟩⟩

lemma Passes.cons {c : Char} (hc : isNumeric c = true) (h : Passes cs rest) : Passes (c :: cs) rest := by
  obtain ⟨passed, rfl, hpassed⟩ := h
  exact ⟨c :: passed, rfl, List.forall_mem_cons.mpr ⟨hc, hpassed⟩⟩

lemma passes_dropWhile (cs : List Char) : Passes cs (cs.dropWhile Char.isDigit) :=
  ⟨cs.takeWhile Char.isDigit, (List.takeWhile_append_dropWhile ..).symm,
    fun _ hc => isNumeric_of_isDigit (List.mem_takeWhile_imp hc)⟩

lemma passes_takeDigits (acc taken : ℕ) (cs : List Char) : Passes cs (takeDigits acc taken cs).2.2 := by
  induction cs generalizing acc taken with
  | nil => exact passes_refl []
  | cons c cs ih =>
    rw [takeDigits]
    split
    · rename_i hc
      rw [Bool.and_eq_true] at hc
      exact (ih _ _).cons (isNumeric_of_isDigit hc.1)
    · exact passes_refl _

variable {negative : Bool} {significand : ℕ} {exponent : ℤ} {n : JsonNumber}

lemma float_of_floatOf (h : floatOf negative significand exponent = .ok n) : ∃ x, n = .float x := by
  obtain ⟨x, -, hn⟩ := exists_of_bind_eq_ok h
  cases hn
  exact ⟨_, rfl⟩

lemma read_exponentPart (h : exponentPart negative significand exponent cs = .ok (n, rest)) :
    Passes cs rest ∧ ∃ x, n = .float x := by
  unfold exponentPart at h
  dsimp only at h
  -- The sign of the exponent does not matter.
  split at h <;> dsimp only at h <;> split at h
  all_goals first | cases h | skip
  all_goals
    split at h
    · obtain ⟨x, hx, hn⟩ := exists_of_bind_eq_ok h
      cases hn
      refine ⟨?_, float_of_floatOf hx⟩
      first
        | exact passes_dropWhile _
        | exact (passes_dropWhile _).cons rfl
    · split at h <;> cases h
      refine ⟨?_, _, rfl⟩
      first
        | exact passes_dropWhile _
        | exact (passes_dropWhile _).cons rfl

lemma read_floatEnd (h : floatEnd negative significand exponent cs = .ok (n, rest)) :
    Passes cs rest ∧ ∃ x, n = .float x := by
  unfold floatEnd at h
  split at h
  · obtain ⟨hpasses, hfloat⟩ := read_exponentPart h
    exact ⟨hpasses.cons rfl, hfloat⟩
  · obtain ⟨hpasses, hfloat⟩ := read_exponentPart h
    exact ⟨hpasses.cons rfl, hfloat⟩
  · obtain ⟨x, hx, hn⟩ := exists_of_bind_eq_ok h
    cases hn
    exact ⟨passes_refl cs, float_of_floatOf hx⟩

lemma read_fractionPart (h : fractionPart negative significand exponent cs = .ok (n, rest)) :
    Passes cs rest ∧ ∃ x, n = .float x := by
  cases cs with
  | nil => cases h
  | cons c tail =>
    simp only [fractionPart] at h
    have htaken := passes_takeDigits significand 0 (c :: tail)
    generalize takeDigits significand 0 (c :: tail) = taken at h htaken
    split at h
    · cases h
    · obtain ⟨hpasses, hfloat⟩ := read_floatEnd h
      exact ⟨(htaken.trans (passes_dropWhile _)).trans hpasses, hfloat⟩

lemma passes_number (h : number negative cs = .ok (n, rest)) : Passes cs rest := by
  cases cs with
  | nil => cases h
  | cons c tail =>
    simp only [number] at h
    have htaken := passes_takeDigits 0 0 (c :: tail)
    generalize takeDigits 0 0 (c :: tail) = taken at h htaken
    obtain ⟨value, count, others⟩ := taken
    dsimp only at h htaken
    have hdigits := htaken.trans (passes_dropWhile others)
    generalize (others.takeWhile Char.isDigit).length = extra at h
    generalize others.dropWhile Char.isDigit = others at h hdigits
    split at h
    · cases h
    · split at h
      · cases h
      · split at h
        · exact hdigits.trans ((read_fractionPart h).1.cons rfl)
        · exact hdigits.trans (read_floatEnd h).1
        · exact hdigits.trans (read_floatEnd h).1
        · split at h
          · exact hdigits.trans (read_floatEnd h).1
          · split at h
            · cases h
              exact hdigits
            · split at h <;> cases h <;> exact hdigits

/-- Digits are taken to their end, or up to a digit that is too much. -/
lemma takeDigits_append {ds : List Char} (hds : ∀ c ∈ ds, c.isDigit = true)
    (hrest : ∀ c ∈ rest.head?, c.isDigit = false) (acc taken : ℕ) :
    ((takeDigits acc taken (ds ++ rest)).1 = Nat.ofDigitChars 10 ds acc ∧
        (takeDigits acc taken (ds ++ rest)).2.2 = rest) ∨
      ∃ c ∈ (takeDigits acc taken (ds ++ rest)).2.2.head?, c.isDigit = true := by
  induction ds generalizing acc taken with
  | nil =>
    left
    cases rest with
    | nil => exact ⟨rfl, rfl⟩
    | cons c cs =>
      have hc : c.isDigit = false := hrest c rfl
      simp [takeDigits, hc]
  | cons d ds ih =>
    rw [List.forall_mem_cons] at hds
    rw [List.cons_append, takeDigits, hds.1, Bool.true_and]
    split
    · rw [Nat.ofDigitChars_cons, Nat.mul_comm 10 acc]
      exact ih hds.2 _ _
    · exact .inr ⟨d, rfl, hds.1⟩

lemma eq_of_number_toDigits {k : ℕ} {m : ℤ} (hhead : ∀ c ∈ rest.head?, isNumeric c = false)
    (h : number false (Nat.toDigits 10 k ++ rest) = .ok (.whole m, after)) : m = k := by
  have hdigits : ∀ c ∈ Nat.toDigits 10 k, c.isDigit = true := fun c =>
    Nat.isDigit_of_mem_toDigits (by decide) (by decide)
  have hend : ∀ c ∈ rest.head?, c.isDigit = false := fun c hc => by
    by_contra hdigit
    rw [Bool.not_eq_false] at hdigit
    exact absurd (isNumeric_of_isDigit hdigit) (by simp [hhead c hc])
  have htaken := takeDigits_append hdigits hend 0 0
  rw [Nat.ofDigitChars_ten_toDigits] at htaken
  obtain ⟨c, tail, hcons⟩ : ∃ c tail, Nat.toDigits 10 k ++ rest = c :: tail := by
    cases hnil : Nat.toDigits 10 k with
    | nil => exact absurd hnil Nat.toDigits_ne_nil
    | cons c tail => exact ⟨c, tail ++ rest, rfl⟩
  rw [hcons] at h htaken
  simp only [number] at h
  generalize takeDigits 0 0 (c :: tail) = taken at h htaken
  obtain ⟨value, count, others⟩ := taken
  dsimp only at h htaken
  split at h
  · cases h
  · split at h
    · cases h
    · obtain ⟨rfl, rfl⟩ | ⟨d, hd, hdigit⟩ := htaken
      · have hnone : others.takeWhile Char.isDigit = [] ∧ others.dropWhile Char.isDigit = others := by
          cases others with
          | nil => exact ⟨rfl, rfl⟩
          | cons c cs => simp [hend c rfl]
        rw [hnone.1, hnone.2] at h
        split at h
        · exact absurd (hhead '.' rfl) (by decide)
        · exact absurd (hhead 'e' rfl) (by decide)
        · exact absurd (hhead 'E' rfl) (by decide)
        · cases h
          rfl
      · -- A digit that is left makes the number one with an exponent.
        have hfloat : ∃ x, JsonNumber.whole m = .float x := by
          have hextra : 0 < (others.takeWhile Char.isDigit).length := by
            cases others with
            | nil => cases hd
            | cons c cs =>
              cases hd
              simp [hdigit]
          split at h
          · exact (read_fractionPart h).2
          · exact (read_floatEnd h).2
          · exact (read_floatEnd h).2
          · rw [if_pos hextra] at h
            exact (read_floatEnd h).2
        obtain ⟨x, hx⟩ := hfloat
        cases hx

end Numbers

end Read

section Texts

lemma isNumeric_of_mem_digitsOf {n : ℕ} {c : Char} (h : c ∈ Number.digitsOf n) : Read.isNumeric c = true :=
  Read.isNumeric_of_isDigit (Nat.isDigit_of_mem_toDigits (by decide) (by decide) h)

lemma isNumeric_shortest (r : Number.Rounding) (tie : Number.Tie) :
    ∀ c ∈ (r.shortest tie).digits, Read.isNumeric c = true := by
  intro c hc
  unfold Number.Rounding.shortest at hc
  dsimp only at hc
  split at hc
  · rw [List.mem_singleton.mp hc]
    rfl
  · rw [List.mem_reverse] at hc
    exact isNumeric_of_mem_digitsOf (List.mem_reverse.mp ((List.dropWhile_suffix _).mem hc))

lemma isNumeric_positional {d : Number.Decimal} (h : ∀ c ∈ d.digits, Read.isNumeric c = true) :
    ∀ c ∈ d.positional ['.', '0'], Read.isNumeric c = true := by
  have hzeros (n : ℕ) : ∀ c ∈ List.replicate n '0', Read.isNumeric c = true := fun c hc => by
    rw [List.eq_of_mem_replicate hc]
    rfl
  have hends : ∀ c ∈ ['.', '0'], Read.isNumeric c = true :=
    List.forall_mem_cons.mpr ⟨rfl, List.forall_mem_singleton.mpr rfl⟩
  unfold Number.Decimal.positional
  split
  · simp only [List.cons_append, List.forall_mem_cons, List.forall_mem_append]
    exact ⟨rfl, rfl, hzeros _, h⟩
  · dsimp only
    split
    · simp only [List.forall_mem_append]
      exact ⟨⟨h, hzeros _⟩, hends⟩
    · simp only [List.forall_mem_append, List.forall_mem_cons]
      exact ⟨fun c hc => h c (List.mem_of_mem_take hc), rfl, fun c hc => h c (List.mem_of_mem_drop hc)⟩

lemma isNumeric_scientific {d : Number.Decimal} (h : ∀ c ∈ d.digits, Read.isNumeric c = true) :
    ∀ c ∈ d.scientific, Read.isNumeric c = true := by
  have hsize (n : ℕ) : ∀ c ∈ Number.digitsOf n, Read.isNumeric c = true := fun _ => isNumeric_of_mem_digitsOf
  unfold Number.Decimal.scientific
  dsimp only
  simp only [List.forall_mem_append, List.forall_mem_cons]
  refine ⟨?_, rfl, ?_, hsize _⟩
  · split
    · simp
    · rename_i c hdigits
      rwa [hdigits] at h
    · rename_i c cs _ hdigits
      rw [hdigits, List.forall_mem_cons] at h
      exact List.forall_mem_cons.mpr ⟨h.1, List.forall_mem_cons.mpr ⟨rfl, h.2⟩⟩
  · split <;> rfl

def IsNumeral (cs : List Char) : Prop := cs ≠ [] ∧ ∀ c ∈ cs, Read.isNumeric c = true

lemma floatText_cases (x : Float) : floatText x = "null" ∨ IsNumeral (floatText x).toList := by
  unfold floatText
  split
  · rename_i negative m e _
    right
    unfold Number.compact
    dsimp only
    generalize hd : (Number.rounding Number.binary64 m e).shortest .even = d
    have hdigits : ∀ c ∈ d.digits, Read.isNumeric c = true := hd ▸ isNumeric_shortest _ _
    have hbody : IsNumeral (if m = 0 then ['0', '.', '0'] else
        if -5 < d.point && d.point ≤ 16 then d.positional ['.', '0'] else d.scientific) := by
      split
      · exact ⟨by simp, List.forall_mem_cons.mpr ⟨rfl, List.forall_mem_cons.mpr
          ⟨rfl, List.forall_mem_singleton.mpr rfl⟩⟩⟩
      · split
        · refine ⟨?_, isNumeric_positional hdigits⟩
          unfold Number.Decimal.positional
          split
          · simp
          · dsimp only
            split <;> simp
        · refine ⟨?_, isNumeric_scientific hdigits⟩
          simp [Number.Decimal.scientific]
    rw [String.toList_ofList]
    split
    · exact ⟨by simp, List.forall_mem_cons.mpr ⟨rfl, hbody.2⟩⟩
    · exact hbody
  · exact .inl rfl

lemma isNumeral_toString (n : ℤ) : IsNumeral (toString n).toList := by
  have hnat (k : ℕ) : IsNumeral (Nat.toDigits 10 k) :=
    ⟨Nat.toDigits_ne_nil, fun _ => isNumeric_of_mem_digitsOf⟩
  cases n with
  | ofNat k =>
    change IsNumeral k.repr.toList
    rw [Nat.toList_repr]
    exact hnat k
  | negSucc k =>
    have htext : (toString (Int.negSucc k)).toList = '-' :: Nat.toDigits 10 (k + 1) := by
      change ("-" ++ (k + 1).repr).toList = _
      rw [String.toList_append, Nat.toList_repr]
      rfl
    rw [htext]
    exact ⟨by simp, List.forall_mem_cons.mpr ⟨rfl, (hnat (k + 1)).2⟩⟩

end Texts

section Lines

def isControl (c : Char) : Bool := c.toNat < 32

/-- A text without control characters, and so without an end of a line. -/
def OnOneLine (text : String) : Prop := text.toList.any isControl = false

instance (text : String) : Decidable (OnOneLine text) :=
  inferInstanceAs (Decidable (text.toList.any isControl = false))

lemma OnOneLine.append {a b : String} (ha : OnOneLine a) (hb : OnOneLine b) : OnOneLine (a ++ b) := by
  rw [OnOneLine, String.toList_append, List.any_append, ha, hb, Bool.or_false]

lemma OnOneLine.not_mem_newline {text : String} (h : OnOneLine text) : '\n' ∉ text.toList :=
  fun hmem => List.any_eq_false.mp h '\n' hmem rfl

lemma any_escapeChar (c : Char) : (escapeChar c).any isControl = false := by
  unfold escapeChar
  split
  all_goals first | rfl | skip
  split
  · rename_i hsmall
    have hall : ∀ n < 32, ['\\', 'u', '0', '0', Nat.digitChar (n / 16), Nat.digitChar (n % 16)].any isControl =
        false := by decide
    exact hall c.toNat hsmall
  · rename_i hlarge
    simpa [isControl] using hlarge

lemma onOneLine_quoted (s : String) : OnOneLine (quoted s) := by
  have hbody : (s.toList.flatMap escapeChar).any isControl = false := by
    rw [List.any_flatMap, List.any_eq_false]
    intro c _
    rw [any_escapeChar]
    decide
  have hquote : isControl '"' = false := rfl
  rw [OnOneLine, quoted, String.toList_ofList]
  simp [hbody, hquote]

lemma IsNumeral.onOneLine {text : String} (h : IsNumeral text.toList) : OnOneLine text := by
  have hnone : ∀ n < 32, Read.isNumeric (Char.ofNat n) = false := by decide
  refine List.any_eq_false.mpr fun c hc hcontrol => ?_
  rw [isControl, decide_eq_true_eq] at hcontrol
  have hnumeric := h.2 c hc
  rw [← Char.ofNat_toNat c, hnone c.toNat hcontrol] at hnumeric
  cases hnumeric

lemma onOneLine_floatText (x : Float) : OnOneLine (floatText x) := by
  obtain hnull | hnumeral := floatText_cases x
  · rw [hnull]
    decide
  · exact hnumeral.onOneLine

lemma OnOneLine.member {value : String} (h : OnOneLine value) (name : String) :
    OnOneLine (quoted name ++ ":" ++ value) :=
  ((onOneLine_quoted name).append (by decide)).append h

lemma OnOneLine.enclosed {before text after : String} (h : OnOneLine text) (hbefore : OnOneLine before)
    (hafter : OnOneLine after) : OnOneLine (before ++ text ++ after) :=
  (hbefore.append h).append hafter

mutual

/-- The compact text of a value stands on one line, whatever its texts hold. -/
lemma onOneLine_compact : ∀ j : Json, OnOneLine j.compact
  | .null => by decide
  | .bool b => by cases b <;> decide
  | .number (.whole n) => (isNumeral_toString n).onOneLine
  | .number (.float x) => onOneLine_floatText x
  | .string s => onOneLine_quoted s
  | .array items => by
    rw [compact]
    exact (onOneLine_compactItems items).enclosed (by decide) (by decide)
  | .object members => by
    rw [compact]
    exact (onOneLine_compactMembers members).enclosed (by decide) (by decide)

lemma onOneLine_compactItems : ∀ items : List Json, OnOneLine (compactItems items)
  | [] => by decide
  | [j] => onOneLine_compact j
  | j :: next :: rest =>
    ((onOneLine_compact j).append (by decide)).append (onOneLine_compactItems (next :: rest))

lemma onOneLine_compactMembers : ∀ members : List (String × Json), OnOneLine (compactMembers members)
  | [] => by decide
  | [(name, value)] => (onOneLine_compact value).member name
  | (name, value) :: next :: rest =>
    (((onOneLine_compact value).member name).append (by decide)).append
      (onOneLine_compactMembers (next :: rest))

end

end Lines

end LoginRisk.Json
