import LoginRisk.Proofs.Json.Written

/-!
What a value looks like when its text is read again. Texts, truth values and names come back as they were, and
so does a whole number. A number with a point may come back as its neighbour, and one that is not finite as
`null`.
-/

namespace LoginRisk.Json

/-- What a value is read back as. Of a number it is only said that one which comes back as a whole number has
been that. -/
inductive ReadsAs : Json → Json → Prop
  | null : ReadsAs .null .null
  | bool (b : Bool) : ReadsAs (.bool b) (.bool b)
  | string (s : String) : ReadsAs (.string s) (.string s)
  | number {n m : JsonNumber} (h : ∀ k : ℕ, n = .whole k → ∀ l, m = .whole l → l = k) :
    ReadsAs (.number n) (.number m)
  | notFinite (x : Float) : ReadsAs (.number (.float x)) .null
  | array {items items' : List Json} (h : List.Forall₂ ReadsAs items items') :
    ReadsAs (.array items) (.array items')
  | object {members members' : List (String × Json)} (names : members.map Prod.fst = members'.map Prod.fst)
    (values : List.Forall₂ ReadsAs (members.map Prod.snd) (members'.map Prod.snd)) :
    ReadsAs (.object members) (.object members')

section Layout

def chars (j : Json) : List Char := j.compact.toList

def memberChars (m : String × Json) : List Char :=
  '"' :: (m.1.toList.flatMap escapeChar ++ '"' :: ':' :: m.2.chars)

/-- The text of an array after an item, up to its end and with what follows. -/
def itemsEnd (js : List Json) (rest : List Char) : List Char := js.flatMap (fun j => ',' :: j.chars) ++ ']' :: rest

def membersEnd (ms : List (String × Json)) (rest : List Char) : List Char :=
  ms.flatMap (fun m => ',' :: memberChars m) ++ '\x7d' :: rest

lemma itemsEnd_cons (j : Json) (js : List Json) (rest : List Char) :
    itemsEnd (j :: js) rest = ',' :: (j.chars ++ itemsEnd js rest) := by
  simp [itemsEnd]

lemma membersEnd_cons (m : String × Json) (ms : List (String × Json)) (rest : List Char) :
    membersEnd (m :: ms) rest = ',' :: (memberChars m ++ membersEnd ms rest) := by
  simp [membersEnd]

lemma chars_string (s : String) (rest : List Char) :
    (Json.string s).chars ++ rest = '"' :: (s.toList.flatMap escapeChar ++ '"' :: rest) := by
  rw [chars, compact, quoted, String.toList_ofList]
  simp

lemma chars_array (j : Json) (js : List Json) (rest : List Char) :
    (Json.array (j :: js)).chars ++ rest = '[' :: (j.chars ++ itemsEnd js rest) := by
  have hitems (j : Json) (js : List Json) :
      (compactItems (j :: js)).toList = j.chars ++ js.flatMap fun i => ',' :: i.chars := by
    induction js generalizing j with
    | nil => simp [compactItems, chars]
    | cons i js ih => simp [compactItems, ih, chars, String.toList_append]
  simp [chars, compact, hitems, itemsEnd, String.toList_append]

lemma chars_object (m : String × Json) (ms : List (String × Json)) (rest : List Char) :
    (Json.object (m :: ms)).chars ++ rest = '\x7b' :: (memberChars m ++ membersEnd ms rest) := by
  have hmembers (m : String × Json) (ms : List (String × Json)) :
      (compactMembers (m :: ms)).toList = memberChars m ++ ms.flatMap fun n => ',' :: memberChars n := by
    induction ms generalizing m with
    | nil => simp [compactMembers, memberChars, chars, quoted, String.toList_append]
    | cons n ms ih => simp [compactMembers, ih, memberChars, chars, quoted, String.toList_append]
  simp [chars, compact, hmembers, membersEnd, String.toList_append]

end Layout

namespace Read

/-- Nothing follows, or a character that is no part of a number. -/
def EndsNumber (rest : List Char) : Prop := ∀ c ∈ rest.head?, isNumeric c = false

lemma endsNumber_itemsEnd (js : List Json) (rest : List Char) : EndsNumber (itemsEnd js rest) := by
  cases js <;> exact fun c hc => Option.some.inj hc ▸ rfl

lemma endsNumber_membersEnd (ms : List (String × Json)) (rest : List Char) : EndsNumber (membersEnd ms rest) := by
  cases ms <;> exact fun c hc => Option.some.inj hc ▸ rfl

/-- What the four readers make of text that was written, from some fuel. A value may be left before the end of
its text only inside a number, and then the reader of the list around it refuses to go on. -/
structure ReadsBack (fuel : ℕ) : Prop where
  value : ∀ {depth : ℕ} {j j' : Json} {rest after : List Char}, EndsNumber rest →
    Read.value (fun _ _ => false) fuel depth (j.chars ++ rest) = .ok (j', after) →
    ∃ left, after = left ++ rest ∧ (∀ c ∈ left, isNumeric c = true) ∧ (left = [] → ReadsAs j j')
  items : ∀ {depth : ℕ} {done js js' : List Json} {left rest after : List Char}, (∀ c ∈ left, isNumeric c = true) →
    Read.items (fun _ _ => false) fuel depth done (left ++ itemsEnd js rest) = .ok (js', after) →
    left = [] ∧ after = rest ∧ ∃ last, js' = done.reverse ++ last ∧ List.Forall₂ ReadsAs js last
  member : ∀ {depth : ℕ} {m m' : String × Json} {rest after : List Char}, EndsNumber rest →
    Read.member (fun _ _ => false) fuel depth (memberChars m ++ rest) = .ok (m', after) →
    ∃ left, after = left ++ rest ∧ (∀ c ∈ left, isNumeric c = true) ∧
      (left = [] → m.1 = m'.1 ∧ ReadsAs m.2 m'.2)
  members : ∀ {depth : ℕ} {done ms ms' : List (String × Json)} {left rest after : List Char},
    (∀ c ∈ left, isNumeric c = true) →
    Read.members (fun _ _ => false) fuel depth done (left ++ membersEnd ms rest) = .ok (ms', after) →
    left = [] ∧ after = rest ∧ ∃ last, ms' = done.reverse ++ last ∧
      ms.map Prod.fst = last.map Prod.fst ∧ List.Forall₂ ReadsAs (ms.map Prod.snd) (last.map Prod.snd)

variable {fuel depth : ℕ} {rest after : List Char}

lemma isSpace_of_isNumeric {c : Char} (h : isNumeric c = true) : isSpace c = false := by
  by_contra hspace
  simp only [isSpace, Bool.not_eq_false, Bool.or_eq_true, beq_iff_eq] at hspace
  obtain ((rfl | rfl) | rfl) | rfl := hspace <;> exact absurd h (by decide)

lemma skipSpace_of_isNumeric {c : Char} (h : isNumeric c = true) (cs : List Char) :
    skipSpace (c :: cs) = c :: cs := by
  simp [skipSpace, isSpace_of_isNumeric h]

lemma items_of_isNumeric {c : Char} (hc : isNumeric c = true) {done js' : List Json} {cs : List Char} :
    Read.items (fun _ _ => false) (fuel + 1) depth done (c :: cs) ≠ .ok (js', after) := by
  intro h
  rw [Read.items, skipSpace_of_isNumeric hc] at h
  split at h
  · rename_i heq
    cases heq
    exact absurd hc (by decide)
  · rename_i heq
    cases heq
    exact absurd hc (by decide)
  · cases h
  · cases h

lemma ReadsBack.items_succ (ih : ReadsBack fuel) {done js js' : List Json} {left : List Char}
    (hleft : ∀ c ∈ left, isNumeric c = true)
    (h : Read.items (fun _ _ => false) (fuel + 1) depth done (left ++ itemsEnd js rest) = .ok (js', after)) :
    left = [] ∧ after = rest ∧ ∃ last, js' = done.reverse ++ last ∧ List.Forall₂ ReadsAs js last := by
  cases left with
  | cons c left => exact absurd h (items_of_isNumeric (hleft c List.mem_cons_self))
  | nil =>
    refine ⟨rfl, ?_⟩
    cases js with
    | nil =>
      have hend : skipSpace ([] ++ itemsEnd [] rest) = ']' :: rest := rfl
      rw [Read.items, hend] at h
      cases h
      exact ⟨rfl, [], by simp, .nil⟩
    | cons j js =>
      have hcomma : skipSpace ([] ++ itemsEnd (j :: js) rest) = ',' :: (j.chars ++ itemsEnd js rest) := by
        rw [itemsEnd_cons]
        rfl
      rw [Read.items, hcomma] at h
      obtain ⟨⟨next, after'⟩, hnext, h⟩ := exists_of_bind_eq_ok h
      obtain ⟨left, rfl, hnumeric, hreads⟩ := ih.value (endsNumber_itemsEnd js rest) hnext
      obtain ⟨hnil, hafter, last, hlast, hall⟩ := ih.items hnumeric h
      refine ⟨hafter, next :: last, ?_, .cons (hreads hnil) hall⟩
      rw [hlast, List.reverse_cons, List.append_assoc, List.singleton_append]

lemma members_of_isNumeric {c : Char} (hc : isNumeric c = true) {done ms' : List (String × Json)} {cs : List Char} :
    Read.members (fun _ _ => false) (fuel + 1) depth done (c :: cs) ≠ .ok (ms', after) := by
  intro h
  rw [Read.members, skipSpace_of_isNumeric hc] at h
  split at h
  · rename_i heq
    cases heq
    exact absurd hc (by decide)
  · rename_i heq
    cases heq
    exact absurd hc (by decide)
  · cases h
  · cases h

lemma ReadsBack.members_succ (ih : ReadsBack fuel) {done ms ms' : List (String × Json)} {left : List Char}
    (hleft : ∀ c ∈ left, isNumeric c = true)
    (h : Read.members (fun _ _ => false) (fuel + 1) depth done (left ++ membersEnd ms rest) = .ok (ms', after)) :
    left = [] ∧ after = rest ∧ ∃ last, ms' = done.reverse ++ last ∧
      ms.map Prod.fst = last.map Prod.fst ∧ List.Forall₂ ReadsAs (ms.map Prod.snd) (last.map Prod.snd) := by
  cases left with
  | cons c left => exact absurd h (members_of_isNumeric (hleft c List.mem_cons_self))
  | nil =>
    refine ⟨rfl, ?_⟩
    cases ms with
    | nil =>
      have hend : skipSpace ([] ++ membersEnd [] rest) = '\x7d' :: rest := rfl
      rw [Read.members, hend] at h
      cases h
      exact ⟨rfl, [], by simp, rfl, .nil⟩
    | cons m ms =>
      have hcomma : skipSpace ([] ++ membersEnd (m :: ms) rest) = ',' :: (memberChars m ++ membersEnd ms rest) := by
        rw [membersEnd_cons]
        rfl
      rw [Read.members, hcomma] at h
      obtain ⟨⟨next, after'⟩, hnext, h⟩ := exists_of_bind_eq_ok h
      obtain ⟨left, rfl, hnumeric, hreads⟩ := ih.member (endsNumber_membersEnd ms rest) hnext
      obtain ⟨hnil, hafter, last, hlast, hnames, hvalues⟩ := ih.members hnumeric h
      obtain ⟨hname, hvalue⟩ := hreads hnil
      refine ⟨hafter, next :: last, ?_, ?_, .cons hvalue hvalues⟩
      · rw [hlast, List.reverse_cons, List.append_assoc, List.singleton_append]
      · rw [List.map_cons, List.map_cons, hname, hnames]

lemma ReadsBack.member_succ (ih : ReadsBack fuel) {m m' : String × Json} (hrest : EndsNumber rest)
    (h : Read.member (fun _ _ => false) (fuel + 1) depth (memberChars m ++ rest) = .ok (m', after)) :
    ∃ left, after = left ++ rest ∧ (∀ c ∈ left, isNumeric c = true) ∧
      (left = [] → m.1 = m'.1 ∧ ReadsAs m.2 m'.2) := by
  have hquote : skipSpace (memberChars m ++ rest) =
      '"' :: (m.1.toList.flatMap escapeChar ++ '"' :: ':' :: (m.2.chars ++ rest)) := by
    simp [memberChars, skipSpace, isSpace]
  have hcolon : skipSpace (':' :: (m.2.chars ++ rest)) = ':' :: (m.2.chars ++ rest) := rfl
  rw [Read.member, hquote] at h
  obtain ⟨⟨name, after'⟩, hname, h⟩ := exists_of_bind_eq_ok h
  rw [string_quoted] at hname
  cases hname
  simp only [hcolon, Bool.false_eq_true, if_false] at h
  obtain ⟨⟨v, after'⟩, hvalue, h⟩ := exists_of_bind_eq_ok h
  cases h
  obtain ⟨left, hafter, hnumeric, hreads⟩ := ih.value hrest hvalue
  exact ⟨left, hafter, hnumeric, fun hnil => ⟨rfl, hreads hnil⟩⟩

/-- What is left of a number and what follows it starts inside the number or behind it. -/
lemma Passes.exists_left {cs : List Char} (h : Passes (cs ++ rest) after) (hcs : ∀ c ∈ cs, isNumeric c = true)
    (hrest : EndsNumber rest) : ∃ left, after = left ++ rest ∧ ∀ c ∈ left, isNumeric c = true := by
  obtain ⟨passed, heq, hpassed⟩ := h
  rcases List.append_eq_append_iff.mp heq with ⟨more, rfl, rfl⟩ | ⟨left, rfl, rfl⟩
  · cases more with
    | nil => exact ⟨[], rfl, by simp⟩
    | cons c more =>
      have hnumeric := hpassed c (by simp)
      rw [hrest c rfl] at hnumeric
      cases hnumeric
  · exact ⟨left, rfl, fun c hc => hcs c (List.mem_append_right _ hc)⟩

/-- A number is read from its text, and then what is left starts inside the text or behind it. -/
lemma value_of_isNumeral {n : JsonNumber} {cs : List Char} (hcs : IsNumeral cs)
    (hwhole : ∀ k : ℕ, n = .whole k → cs = Nat.toDigits 10 k) (hrest : EndsNumber rest) {j' : Json}
    (h : Read.value (fun _ _ => false) (fuel + 1) depth (cs ++ rest) = .ok (j', after)) :
    ∃ left, after = left ++ rest ∧ (∀ c ∈ left, isNumeric c = true) ∧ ReadsAs (.number n) j' := by
  obtain ⟨hnil, hnumeric⟩ := hcs
  cases cs with
  | nil => exact absurd rfl hnil
  | cons c tail =>
    have hc := hnumeric c List.mem_cons_self
    rw [Read.value, List.cons_append, skipSpace_of_isNumeric hc] at h
    -- No other value starts with such a character.
    split at h
    all_goals
      rename_i heq
      cases heq
    all_goals first | exact absurd hc (by decide) | skip
    · obtain ⟨⟨m, after'⟩, hm, h⟩ := exists_of_bind_eq_ok h
      cases h
      obtain ⟨left, hafter, hleft⟩ := (passes_number hm).exists_left
        (fun c hc => hnumeric c (List.mem_cons_of_mem _ hc)) hrest
      refine ⟨left, hafter, hleft, .number fun k hk l hl => ?_⟩
      have hdigit : '-' ∈ Nat.toDigits 10 k := hwhole k hk ▸ List.mem_cons_self
      exact absurd (Nat.isDigit_of_mem_toDigits (by decide) (by decide) hdigit) (by decide)
    · split at h
      · cases h
      · obtain ⟨⟨m, after'⟩, hm, h⟩ := exists_of_bind_eq_ok h
        cases h
        rw [← List.cons_append] at hm
        obtain ⟨left, hafter, hleft⟩ := (passes_number hm).exists_left hnumeric hrest
        refine ⟨left, hafter, hleft, .number fun k hk l hl => ?_⟩
        rw [hwhole k hk, hl] at hm
        exact eq_of_number_toDigits hrest hm

lemma word_append (w : String) (v : Json) (rest : List Char) : word w v (w.toList ++ rest) = .ok (v, rest) := by
  have hprefix : w.toList.isPrefixOf (w.toList ++ rest) = true :=
    List.isPrefixOf_iff_prefix.mpr (List.prefix_append ..)
  rw [word, if_pos hprefix, ← String.length_toList, List.drop_left]

lemma value_word {w : String} {v j' : Json} {c : Char} {cs : List Char} (hw : w.toList = c :: cs)
    (hread : ∀ rest, Read.value (fun _ _ => false) (fuel + 1) depth (c :: rest) = word w v (c :: rest))
    (h : Read.value (fun _ _ => false) (fuel + 1) depth (w.toList ++ rest) = .ok (j', after)) :
    after = rest ∧ j' = v := by
  rw [hw, List.cons_append, hread, ← List.cons_append, ← hw, word_append] at h
  cases h
  exact ⟨rfl, rfl⟩

lemma value_null {j' : Json}
    (h : Read.value (fun _ _ => false) (fuel + 1) depth ("null".toList ++ rest) = .ok (j', after)) :
    after = rest ∧ j' = .null :=
  value_word rfl (fun rest => by rw [Read.value]; rfl) h

lemma exists_chars_cons (j : Json) : ∃ c cs, j.chars = c :: cs ∧ isSpace c = false ∧ c ≠ ']' := by
  have hnumeral {cs : List Char} (h : IsNumeral cs) : ∃ c tail, cs = c :: tail ∧ isSpace c = false ∧ c ≠ ']' := by
    obtain ⟨hnil, hnumeric⟩ := h
    cases cs with
    | nil => exact absurd rfl hnil
    | cons c tail =>
      have hc := hnumeric c List.mem_cons_self
      exact ⟨c, tail, rfl, isSpace_of_isNumeric hc, by rintro rfl; exact absurd hc (by decide)⟩
  cases j with
  | null => exact ⟨'n', _, rfl, rfl, by decide⟩
  | bool b => cases b <;> exact ⟨_, _, rfl, rfl, by decide⟩
  | string s =>
    have h := chars_string s []
    rw [List.append_nil] at h
    exact ⟨_, _, h, rfl, by decide⟩
  | number n =>
    cases n with
    | whole n => exact hnumeral (isNumeral_toString n)
    | float x =>
      obtain hnull | h := floatText_cases x
      · exact ⟨'n', _, congrArg String.toList hnull, rfl, by decide⟩
      · exact hnumeral h
  | array items =>
    cases items with
    | nil => exact ⟨_, _, rfl, rfl, by decide⟩
    | cons j js =>
      have h := chars_array j js []
      rw [List.append_nil] at h
      exact ⟨_, _, h, rfl, by decide⟩
  | object members =>
    cases members with
    | nil => exact ⟨_, _, rfl, rfl, by decide⟩
    | cons m ms =>
      have h := chars_object m ms []
      rw [List.append_nil] at h
      exact ⟨_, _, h, rfl, by decide⟩

lemma value_array (j : Json) (js : List Json) :
    Read.value (fun _ _ => false) (fuel + 1) depth ('[' :: (j.chars ++ itemsEnd js rest)) =
      if depth = 0 then .error .tooDeep
      else do
        let (first, after) ← Read.value (fun _ _ => false) fuel (depth - 1) (j.chars ++ itemsEnd js rest)
        let (items, after) ← Read.items (fun _ _ => false) fuel (depth - 1) [first] after
        return (.array items, after) := by
  obtain ⟨c, cs, hcs, hspace, hc⟩ := exists_chars_cons j
  have hopen : skipSpace ('[' :: c :: (cs ++ itemsEnd js rest)) = '[' :: c :: (cs ++ itemsEnd js rest) := rfl
  have hfirst : skipSpace (c :: (cs ++ itemsEnd js rest)) = c :: (cs ++ itemsEnd js rest) := by
    simp [skipSpace, hspace]
  rw [hcs, List.cons_append, Read.value, hopen]
  simp only [hfirst]
  split
  · rfl
  · split
    · rename_i heq
      exact absurd (List.head_eq_of_cons_eq heq) hc
    · rfl

lemma value_object (m : String × Json) (ms : List (String × Json)) :
    Read.value (fun _ _ => false) (fuel + 1) depth ('\x7b' :: (memberChars m ++ membersEnd ms rest)) =
      if depth = 0 then .error .tooDeep
      else do
        let (first, after) ← Read.member (fun _ _ => false) fuel (depth - 1) (memberChars m ++ membersEnd ms rest)
        let (members, after) ← Read.members (fun _ _ => false) fuel (depth - 1) [first] after
        return (.object members, after) := by
  rw [Read.value]
  rfl

lemma ReadsBack.value_succ (ih : ReadsBack fuel) {j j' : Json} (hrest : EndsNumber rest)
    (h : Read.value (fun _ _ => false) (fuel + 1) depth (j.chars ++ rest) = .ok (j', after)) :
    ∃ left, after = left ++ rest ∧ (∀ c ∈ left, isNumeric c = true) ∧ (left = [] → ReadsAs j j') := by
  cases j with
  | null =>
    obtain ⟨rfl, rfl⟩ := value_null h
    exact ⟨[], rfl, by simp, fun _ => .null⟩
  | bool b =>
    have hword : after = rest ∧ j' = .bool b := by
      cases b with
      | false => exact value_word (w := "false") rfl (fun rest => by rw [Read.value]; rfl) h
      | true => exact value_word (w := "true") rfl (fun rest => by rw [Read.value]; rfl) h
    obtain ⟨rfl, rfl⟩ := hword
    exact ⟨[], rfl, by simp, fun _ => .bool b⟩
  | string s =>
    have hquote : skipSpace ((Json.string s).chars ++ rest) = '"' :: (s.toList.flatMap escapeChar ++ '"' :: rest) := by
      rw [chars_string]
      rfl
    rw [Read.value, hquote] at h
    obtain ⟨⟨t, after'⟩, ht, h⟩ := exists_of_bind_eq_ok h
    rw [string_quoted] at ht
    cases ht
    cases h
    exact ⟨[], rfl, by simp, fun _ => .string s⟩
  | number n =>
    cases n with
    | whole n =>
      have hwhole : ∀ k : ℕ, JsonNumber.whole n = .whole k → (toString n).toList = Nat.toDigits 10 k := by
        rintro k hk
        cases hk
        exact Nat.toList_repr
      obtain ⟨left, hafter, hleft, hreads⟩ := value_of_isNumeral (isNumeral_toString n) hwhole hrest h
      exact ⟨left, hafter, hleft, fun _ => hreads⟩
    | float x =>
      change Read.value _ _ _ ((floatText x).toList ++ rest) = _ at h
      obtain hnull | hnumeral := floatText_cases x
      · rw [hnull] at h
        obtain ⟨rfl, rfl⟩ := value_null h
        exact ⟨[], rfl, by simp, fun _ => .notFinite x⟩
      · obtain ⟨left, hafter, hleft, hreads⟩ := value_of_isNumeral (n := .float x) hnumeral (fun k hk => by cases hk) hrest h
        exact ⟨left, hafter, hleft, fun _ => hreads⟩
  | array items =>
    cases items with
    | nil =>
      have hempty : Read.value (fun _ _ => false) (fuel + 1) depth ('[' :: ']' :: rest) =
          if depth = 0 then .error .tooDeep else .ok (.array [], rest) := by
        rw [Read.value]
        rfl
      change Read.value _ _ _ ('[' :: ']' :: rest) = _ at h
      rw [hempty] at h
      split at h <;> cases h
      exact ⟨[], rfl, by simp, fun _ => .array .nil⟩
    | cons j js =>
      rw [chars_array, value_array] at h
      split at h
      · cases h
      · obtain ⟨⟨first, after'⟩, hfirst, h⟩ := exists_of_bind_eq_ok h
        obtain ⟨⟨items', after''⟩, hitems, h⟩ := exists_of_bind_eq_ok h
        cases h
        obtain ⟨left, rfl, hnumeric, hreads⟩ := ih.value (endsNumber_itemsEnd js rest) hfirst
        obtain ⟨hnil, rfl, last, rfl, hall⟩ := ih.items hnumeric hitems
        exact ⟨[], rfl, by simp, fun _ => .array (.cons (hreads hnil) hall)⟩
  | object members =>
    cases members with
    | nil =>
      have hempty : Read.value (fun _ _ => false) (fuel + 1) depth ('\x7b' :: '\x7d' :: rest) =
          if depth = 0 then .error .tooDeep else .ok (.object [], rest) := by
        rw [Read.value]
        rfl
      change Read.value _ _ _ ('\x7b' :: '\x7d' :: rest) = _ at h
      rw [hempty] at h
      split at h <;> cases h
      exact ⟨[], rfl, by simp, fun _ => .object rfl .nil⟩
    | cons m ms =>
      rw [chars_object, value_object] at h
      split at h
      · cases h
      · obtain ⟨⟨first, after'⟩, hfirst, h⟩ := exists_of_bind_eq_ok h
        obtain ⟨⟨members', after''⟩, hmembers, h⟩ := exists_of_bind_eq_ok h
        cases h
        obtain ⟨left, rfl, hnumeric, hreads⟩ := ih.member (endsNumber_membersEnd ms rest) hfirst
        obtain ⟨hnil, rfl, last, rfl, hnames, hvalues⟩ := ih.members hnumeric hmembers
        obtain ⟨hname, hvalue⟩ := hreads hnil
        refine ⟨[], rfl, by simp, fun _ => .object ?_ (.cons hvalue hvalues)⟩
        simp [hname, hnames]

lemma readsBack (fuel : ℕ) : ReadsBack fuel := by
  induction fuel with
  | zero =>
    refine ⟨fun _ h => ?_, fun _ h => ?_, fun _ h => ?_, fun _ h => ?_⟩
    · rw [Read.value] at h
      cases h
    · rw [Read.items] at h
      cases h
    · rw [Read.member] at h
      cases h
    · rw [Read.members] at h
      cases h
  | succ fuel ih => exact ⟨ih.value_succ, ih.items_succ, ih.member_succ, ih.members_succ⟩

end Read

/-- The text of a value, where it is read at all, stands for what the value is read back as. -/
theorem readsAs_of_read_compact {j j' : Json} (h : read j.compact = .ok j') : ReadsAs j j' := by
  obtain ⟨⟨found, after⟩, hvalue, h⟩ := exists_of_bind_eq_ok h
  have hend : Read.EndsNumber [] := by simp [Read.EndsNumber]
  rw [← List.append_nil j.compact.toList] at hvalue
  obtain ⟨left, rfl, hnumeric, hreads⟩ := (Read.readsBack _).value (j := j) hend hvalue
  dsimp only at h
  split at h <;> cases h
  rename_i hempty
  refine hreads ?_
  cases left with
  | nil => rfl
  | cons c left =>
    rw [List.append_nil, Read.skipSpace_of_isNumeric (hnumeric c List.mem_cons_self)] at hempty
    cases hempty

end LoginRisk.Json
