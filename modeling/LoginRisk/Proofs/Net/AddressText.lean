import LoginRisk.Net.Address
import LoginRisk.Proofs.Text.Digits
import Mathlib.Algebra.Group.Nat.Defs
import Mathlib.Data.List.TakeWhile

/-!
The standard text of an address belongs to this address alone. The long form is read back from its
pieces between colons, where `::` stands for the zeros that are missing from eight groups.
-/

namespace LoginRisk.Address

open Text

section Pieces

variable {sep : Char} {xs ys : List (List Char)}

lemma intercalate_inj (hx : ∀ x ∈ xs, sep ∉ x) (hy : ∀ y ∈ ys, sep ∉ y) (hxs : xs ≠ []) (hys : ys ≠ [])
    (h : [sep].intercalate xs = [sep].intercalate ys) : xs = ys := by
  rw [← List.splitOn_intercalate sep hx hxs, h, List.splitOn_intercalate sep hy hys]

lemma intercalate_append (hxs : xs ≠ []) (hys : ys ≠ []) :
    [sep].intercalate (xs ++ ys) = [sep].intercalate xs ++ sep :: [sep].intercalate ys := by
  induction xs with
  | nil => exact absurd rfl hxs
  | cons x xs ih =>
    by_cases h : xs = []
    · subst h
      simp [List.intercalate_cons_of_ne_nil hys]
    · rw [List.cons_append, List.intercalate_cons_of_ne_nil (by simp [h]), ih h,
        List.intercalate_cons_of_ne_nil h]
      simp

lemma mem_intercalate {c : Char} (h : c ∈ [sep].intercalate xs) : c = sep ∨ ∃ x ∈ xs, c ∈ x := by
  induction xs with
  | nil => simp at h
  | cons x xs ih =>
    by_cases hxs : xs = []
    · subst hxs
      exact .inr ⟨x, by simp, by simpa using h⟩
    · rw [List.intercalate_cons_of_ne_nil hxs] at h
      simp only [List.mem_append, List.mem_singleton] at h
      rcases h with (h | h) | h
      · exact .inr ⟨x, by simp, h⟩
      · exact .inl h
      · rcases ih h with h | ⟨y, hy, hc⟩
        · exact .inl h
        · exact .inr ⟨y, by simp [hy], hc⟩

end Pieces

lemma colon_not_mem_toDigits {b : Nat} (hb : 1 < b) (hb' : b ≤ 16) (n : Nat) :
    ':' ∉ Nat.toDigits b n :=
  fun h => absurd (mem_digitChars_of_mem_toDigits hb hb' n _ h) (by decide)

lemma point_not_mem_toDigits {b : Nat} (hb : 1 < b) (hb' : b ≤ 16) (n : Nat) :
    '.' ∉ Nat.toDigits b n :=
  fun h => absurd (mem_digitChars_of_mem_toDigits hb hb' n _ h) (by decide)

lemma octets_inj {m n : Nat} (hm : m < 2 ^ 32) (hn : n < 2 ^ 32) (h : octets m = octets n) : m = n := by
  simp only [octets, Nat.shiftRight_eq_div_pow, List.cons.injEq, and_true] at h
  omega

lemma segments_inj {m n : Nat} (hm : m < 2 ^ 128) (hn : n < 2 ^ 128)
    (h : segments m = segments n) : m = n := by
  simp only [segments, Nat.shiftRight_eq_div_pow, List.cons.injEq, and_true] at h
  omega

lemma toList_fourText (bits : Nat) :
    (fourText bits).toList = ['.'].intercalate ((octets bits).map (Nat.toDigits 10)) := by
  have hdigits : (octets bits).map (String.toList ∘ toString) = (octets bits).map (Nat.toDigits 10) :=
    List.map_congr_left fun d _ => Nat.toList_repr
  rw [fourText, String.toList_intercalate, List.map_map, hdigits]
  rfl

lemma fourText_inj {m n : Nat} (hm : m < 2 ^ 32) (hn : n < 2 ^ 32)
    (h : (fourText m).toList = (fourText n).toList) : m = n := by
  rw [toList_fourText, toList_fourText] at h
  have hpoint (k : Nat) : ∀ x ∈ (octets k).map (Nat.toDigits 10), '.' ∉ x := by
    intro x hx
    obtain ⟨d, -, rfl⟩ := List.mem_map.mp hx
    exact point_not_mem_toDigits (by decide) (by decide) d
  have hmap := intercalate_inj (hpoint m) (hpoint n) (by simp [octets]) (by simp [octets]) h
  exact octets_inj hm hn (List.map_injective_iff.mpr (toDigits_injective (by decide) (by decide)) hmap)

def IsZeros (gs : List Nat) (run : Nat × Nat) : Prop :=
  gs = gs.take run.1 ++ List.replicate run.2 0 ++ gs.drop (run.1 + run.2)

lemma replicate_append_drop_zeros (gs : List Nat) :
    List.replicate (gs.takeWhile (· == 0)).length 0 ++ gs.drop (gs.takeWhile (· == 0)).length = gs := by
  induction gs with
  | nil => rfl
  | cons g gs ih =>
    by_cases hg : g = 0
    · simp [hg, List.replicate_succ, ih]
    · simp [hg]

lemma isZeros_takeWhile (gs : List Nat) (i : Nat) :
    IsZeros gs (i, ((gs.drop i).takeWhile (· == 0)).length) := by
  have h := replicate_append_drop_zeros (gs.drop i)
  rw [List.drop_drop] at h
  rw [IsZeros, List.append_assoc, h, List.take_append_drop]

lemma isZeros_longestZeros (gs : List Nat) : IsZeros gs (longestZeros gs) := by
  unfold longestZeros
  generalize List.range gs.length = is
  have h (best : Nat × Nat) (hbest : IsZeros gs best) : IsZeros gs (is.foldl
      (fun best i =>
        let len := ((gs.drop i).takeWhile (· == 0)).length
        if best.2 < len then (i, len) else best) best) := by
    induction is generalizing best with
    | nil => exact hbest
    | cons i is ih =>
      rw [List.foldl_cons]
      apply ih
      dsimp only
      split
      · exact isZeros_takeWhile gs i
      · exact hbest
  exact h (0, 0) (by simp [IsZeros])

/-- The pieces between colons of some groups; no groups leave one empty piece. -/
def pieces (gs : List Nat) : List (List Char) :=
  if gs = [] then [[]] else gs.map (Nat.toDigits 16)

lemma pieces_ne_nil (gs : List Nat) : pieces gs ≠ [] := by
  unfold pieces
  split
  · simp
  · rename_i h
    simpa using h

lemma toList_join (gs : List Nat) :
    (":".intercalate (gs.map groupText)).toList = [':'].intercalate (pieces gs) := by
  have hgroups : (gs.map groupText).map String.toList = gs.map (Nat.toDigits 16) := by
    rw [List.map_map]
    exact List.map_congr_left fun g _ => String.toList_ofList
  rw [String.toList_intercalate, hgroups]
  unfold pieces
  split
  · rename_i h
    subst h
    rfl
  · rfl

lemma colon_not_mem_pieces (gs : List Nat) : ∀ x ∈ pieces gs, ':' ∉ x := by
  intro x hx
  unfold pieces at hx
  split at hx
  · simp_all
  · obtain ⟨g, -, rfl⟩ := List.mem_map.mp hx
    exact colon_not_mem_toDigits (by decide) (by decide) g

def sixPieces (gs : List Nat) : List (List Char) :=
  let (start, len) := longestZeros gs
  if len < 2 then pieces gs else pieces (gs.take start) ++ [] :: pieces (gs.drop (start + len))

lemma toList_sixText {bits : Nat} (h : bits >>> 32 ≠ 0xffff) :
    (sixText bits).toList = [':'].intercalate (sixPieces (segments bits)) := by
  unfold sixText sixPieces
  dsimp only
  rw [if_neg h]
  split
  · exact toList_join _
  · rw [String.toList_append, String.toList_append, toList_join, toList_join,
      intercalate_append (pieces_ne_nil _) (by simp),
      List.intercalate_cons_of_ne_nil (pieces_ne_nil _)]
    simp

/-- Reads the groups from the pieces: an empty piece stands for the zeros that are missing. -/
def readPieces (ps : List (List Char)) : List (List Char) :=
  let before := ps.takeWhile (· ≠ [])
  let after := (ps.drop before.length).filter (· ≠ [])
  before ++ List.replicate (8 - before.length - after.length) ['0'] ++ after

lemma takeWhile_digits (gs : List Nat) (rest : List (List Char)) :
    (gs.map (Nat.toDigits 16) ++ [] :: rest).takeWhile (· ≠ []) = gs.map (Nat.toDigits 16) := by
  rw [List.takeWhile_append_of_pos]
  · simp
  · intro x hx
    obtain ⟨g, -, rfl⟩ := List.mem_map.mp hx
    simp

lemma filter_pieces (gs : List Nat) :
    (pieces gs).filter (· ≠ []) = gs.map (Nat.toDigits 16) := by
  unfold pieces
  split
  · rename_i h
    subst h
    rfl
  · refine List.filter_eq_self.mpr fun x hx => ?_
    obtain ⟨g, -, rfl⟩ := List.mem_map.mp hx
    simp

lemma readPieces_gap (before after : List Nat) :
    readPieces (pieces before ++ [] :: pieces after) =
      before.map (Nat.toDigits 16) ++ List.replicate (8 - before.length - after.length) ['0'] ++
        after.map (Nat.toDigits 16) := by
  by_cases hb : before = []
  · subst hb
    have h : pieces [] ++ [] :: pieces after = [] :: [] :: pieces after := rfl
    have hbefore : ([] :: [] :: pieces after).takeWhile (· ≠ []) = [] :=
      List.takeWhile_cons_of_neg (by simp)
    unfold readPieces
    rw [h]
    dsimp only
    rw [hbefore, List.length_nil, List.drop_zero, List.filter_cons_of_neg (by simp),
      List.filter_cons_of_neg (by simp), filter_pieces, List.length_map]
    rfl
  · have h : pieces before = before.map (Nat.toDigits 16) := if_neg hb
    unfold readPieces
    rw [h]
    dsimp only
    rw [takeWhile_digits, List.drop_left, List.filter_cons_of_neg (by simp), filter_pieces,
      List.length_map, List.length_map]

lemma readPieces_full {gs : List Nat} (h : gs.length = 8) :
    readPieces (gs.map (Nat.toDigits 16)) = gs.map (Nat.toDigits 16) := by
  have hwhole : (gs.map (Nat.toDigits 16)).takeWhile (· ≠ []) = gs.map (Nat.toDigits 16) := by
    rw [List.takeWhile_eq_self_iff]
    intro x hx
    obtain ⟨g, -, rfl⟩ := List.mem_map.mp hx
    simp
  unfold readPieces
  dsimp only
  rw [hwhole, List.drop_length]
  simp [h]

lemma readPieces_sixPieces {gs : List Nat} (h : gs.length = 8) :
    readPieces (sixPieces gs) = gs.map (Nat.toDigits 16) := by
  have hzeros := isZeros_longestZeros gs
  unfold sixPieces
  generalize longestZeros gs = run at hzeros ⊢
  obtain ⟨start, len⟩ := run
  dsimp only [IsZeros] at hzeros ⊢
  split
  · have hpieces : pieces gs = gs.map (Nat.toDigits 16) := if_neg fun hnil => by simp [hnil] at h
    rw [hpieces, readPieces_full h]
  · have hlen := congrArg List.length hzeros
    simp only [List.length_append, List.length_replicate, h] at hlen
    have hgap : 8 - (gs.take start).length - (gs.drop (start + len)).length = len := by omega
    have hzero : Nat.toDigits 16 0 = ['0'] := Nat.toDigits_zero 16
    rw [readPieces_gap, hgap]
    conv_rhs => rw [hzeros]
    rw [List.map_append, List.map_append, List.map_replicate, hzero]

lemma colon_not_mem_sixPieces (gs : List Nat) : ∀ x ∈ sixPieces gs, ':' ∉ x := by
  intro x hx
  unfold sixPieces at hx
  dsimp only at hx
  split at hx
  · exact colon_not_mem_pieces _ x hx
  · rcases List.mem_append.mp hx with hx | hx
    · exact colon_not_mem_pieces _ x hx
    · rcases List.mem_cons.mp hx with rfl | hx
      · simp
      · exact colon_not_mem_pieces _ x hx

lemma sixPieces_ne_nil (gs : List Nat) : sixPieces gs ≠ [] := by
  unfold sixPieces
  dsimp only
  split
  · exact pieces_ne_nil gs
  · simp

lemma sixPieces_inj {gs hs : List Nat} (hg : gs.length = 8) (hh : hs.length = 8)
    (h : [':'].intercalate (sixPieces gs) = [':'].intercalate (sixPieces hs)) : gs = hs := by
  have hpieces := intercalate_inj (colon_not_mem_sixPieces gs) (colon_not_mem_sixPieces hs)
    (sixPieces_ne_nil gs) (sixPieces_ne_nil hs) h
  have hread := congrArg readPieces hpieces
  rw [readPieces_sixPieces hg, readPieces_sixPieces hh] at hread
  exact List.map_injective_iff.mpr (toDigits_injective (by decide) (by decide)) hread

lemma mem_fourText {bits : Nat} {c : Char} (h : c ∈ (fourText bits).toList) :
    c ∈ digitChars ∨ c = '.' := by
  rw [toList_fourText] at h
  rcases mem_intercalate h with h | ⟨x, hx, hc⟩
  · exact .inr h
  · obtain ⟨d, -, rfl⟩ := List.mem_map.mp hx
    exact .inl (mem_digitChars_of_mem_toDigits (by decide) (by decide) d c hc)

lemma mem_pieces {gs : List Nat} {x : List Char} (hx : x ∈ pieces gs) : ∀ c ∈ x, c ∈ digitChars := by
  unfold pieces at hx
  split at hx
  · simp_all
  · obtain ⟨g, -, rfl⟩ := List.mem_map.mp hx
    exact mem_digitChars_of_mem_toDigits (by decide) (by decide) g

lemma mem_sixPieces {gs : List Nat} {x : List Char} (hx : x ∈ sixPieces gs) :
    ∀ c ∈ x, c ∈ digitChars := by
  unfold sixPieces at hx
  dsimp only at hx
  split at hx
  · exact mem_pieces hx
  · rcases List.mem_append.mp hx with hx | hx
    · exact mem_pieces hx
    · rcases List.mem_cons.mp hx with rfl | hx
      · simp
      · exact mem_pieces hx

lemma mem_sixText {bits : Nat} (h : bits >>> 32 ≠ 0xffff) {c : Char}
    (hc : c ∈ (sixText bits).toList) : c ∈ digitChars ∨ c = ':' := by
  rw [toList_sixText h] at hc
  rcases mem_intercalate hc with hc | ⟨x, hx, hc⟩
  · exact .inr hc
  · exact .inl (mem_sixPieces hx c hc)

lemma toList_mapped {bits : Nat} (h : bits >>> 32 = 0xffff) :
    (sixText bits).toList = "::ffff:".toList ++ (fourText (bits % 2 ^ 32)).toList := by
  have hmapped : sixText bits = "::ffff:" ++ fourText (bits % 2 ^ 32) := if_pos h
  rw [hmapped, String.toList_append]

lemma mem_text (a : Address) {c : Char} (hc : c ∈ a.text.toList) :
    c ∈ digitChars ∨ c = ':' ∨ c = '.' := by
  cases a with
  | v4 bits =>
    rcases mem_fourText hc with h | h
    · exact .inl h
    · exact .inr (.inr h)
  | v6 bits =>
    by_cases hm : bits.toNat >>> 32 = 0xffff
    · rw [text, toList_mapped hm] at hc
      rcases List.mem_append.mp hc with h | h
      · have hprefix : "::ffff:".toList.all fun c => c ∈ digitChars ∨ c = ':' ∨ c = '.' := by decide
        exact of_decide_eq_true (List.all_eq_true.mp hprefix c h)
      · rcases mem_fourText h with h | h
        · exact .inl h
        · exact .inr (.inr h)
    · rcases mem_sixText hm hc with h | h
      · exact .inl h
      · exact .inr (.inl h)

lemma point_mem_fourText (bits : Nat) : '.' ∈ (fourText bits).toList := by
  rw [toList_fourText]
  simp [octets]

lemma colon_not_mem_fourText (bits : Nat) : ':' ∉ (fourText bits).toList := by
  intro h
  rcases mem_fourText h with h | h
  · exact absurd h (by decide)
  · exact absurd h (by decide)

lemma point_not_mem_sixText {bits : Nat} (h : bits >>> 32 ≠ 0xffff) : '.' ∉ (sixText bits).toList := by
  intro hc
  rcases mem_sixText h hc with hc | hc
  · exact absurd hc (by decide)
  · exact absurd hc (by decide)

lemma point_mem_mapped {bits : Nat} (h : bits >>> 32 = 0xffff) : '.' ∈ (sixText bits).toList := by
  rw [toList_mapped h]
  exact List.mem_append_right _ (point_mem_fourText _)

/-- A short and a long form differ: a short one has points and no colons, a long one has a colon or no
point. -/
lemma fourText_ne_sixText (m n : Nat) : (fourText m).toList ≠ (sixText n).toList := by
  intro h
  by_cases hn : n >>> 32 = 0xffff
  · apply colon_not_mem_fourText m
    rw [h, toList_mapped hn]
    exact List.mem_append_left _ (by decide)
  · apply point_not_mem_sixText hn
    rw [← h]
    exact point_mem_fourText m

lemma sixText_inj {m n : Nat} (hm : m < 2 ^ 128) (hn : n < 2 ^ 128)
    (h : (sixText m).toList = (sixText n).toList) : m = n := by
  by_cases hm' : m >>> 32 = 0xffff <;> by_cases hn' : n >>> 32 = 0xffff
  · rw [toList_mapped hm', toList_mapped hn'] at h
    have hlow := fourText_inj (Nat.mod_lt m (by decide)) (Nat.mod_lt n (by decide))
      (List.append_cancel_left h)
    rw [Nat.shiftRight_eq_div_pow] at hm' hn'
    omega
  · exact absurd (h ▸ point_mem_mapped hm') (point_not_mem_sixText hn')
  · exact absurd (h.symm ▸ point_mem_mapped hn') (point_not_mem_sixText hm')
  · rw [toList_sixText hm', toList_sixText hn'] at h
    exact segments_inj hm hn (sixPieces_inj rfl rfl h)

/-- The text of an address belongs to this address alone. -/
theorem text_injective : Function.Injective text := by
  intro a b h
  have hchars : a.text.toList = b.text.toList := congrArg String.toList h
  cases a with
  | v4 m =>
    cases b with
    | v4 n => rw [BitVec.eq_of_toNat_eq (fourText_inj m.isLt n.isLt hchars)]
    | v6 n => exact absurd hchars (fourText_ne_sixText _ _)
  | v6 m =>
    cases b with
    | v4 n => exact absurd hchars.symm (fourText_ne_sixText _ _)
    | v6 n => rw [BitVec.eq_of_toNat_eq (sixText_inj m.isLt n.isLt hchars)]

end LoginRisk.Address
