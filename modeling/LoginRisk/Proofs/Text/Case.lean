import LoginRisk.Proofs.Assoc
import LoginRisk.Text.Case
import Mathlib.Data.Nat.Bitwise

/-!
Upper case in every script. Done twice it does no more than done once, and a text differs from its upper case by
ASCII letters alone just if none of its other characters has an upper case. The lower case of ASCII characters is
made of each one by itself.
-/

namespace LoginRisk.Text

def CaseRun.points (r : CaseRun) : List ℕ :=
  (List.range ((r.last - r.first) / r.stride + 1)).map fun k => r.first + r.stride * k

def raised : List ℕ := upperRuns.flatMap CaseRun.points ++ upperExpansions.map Prod.fst

def raisedTo : List ℕ :=
  (upperRuns.flatMap fun r => r.points.map fun n : ℕ => (n + r.shift).toNat) ++ upperExpansions.flatMap Prod.snd

def bits (ns : List ℕ) : ℕ := ns.foldr (fun n m => 1 <<< n ||| m) 0

lemma testBit_bits (ns : List ℕ) (n : ℕ) : (bits ns).testBit n = true ↔ n ∈ ns := by
  induction ns with
  | nil => simp [bits]
  | cons m ns ih =>
    rw [bits, List.foldr_cons, ← bits, Nat.testBit_or, Bool.or_eq_true, ih, Nat.one_shiftLeft, Nat.testBit_two_pow,
      List.mem_cons, decide_eq_true_iff, eq_comm]

lemma not_mem_of_bits {ms ns : List ℕ} (h : bits ms &&& bits ns = 0) {n : ℕ} (hn : n ∈ ms) : n ∉ ns := by
  intro hn'
  have hboth := congrArg (fun m => Nat.testBit m n) h
  simp only [Nat.testBit_and, (testBit_bits ms n).mpr hn, (testBit_bits ns n).mpr hn', Nat.zero_testBit] at hboth
  cases hboth

/-- No upper case contains a character that has another one. -/
private lemma raisedTo_disjoint : bits raisedTo &&& bits raised = 0 := by
  decide +kernel

private lemma raisedTo_ascii : ∀ n ∈ raisedTo, n < 128 → (Char.ofNat n).toUpper = Char.ofNat n := by
  decide +kernel

lemma CaseRun.mem_points {r : CaseRun} {n : ℕ} (h : r.covers n = true) : n ∈ r.points := by
  simp only [covers, Bool.and_eq_true, decide_eq_true_iff, beq_iff_eq] at h
  obtain ⟨⟨hfirst, hlast⟩, hstride⟩ := h
  have hsteps := Nat.mul_div_cancel' (Nat.dvd_of_mod_eq_zero hstride)
  refine List.mem_map.mpr ⟨(n - r.first) / r.stride, List.mem_range.mpr ?_, by omega⟩
  exact Nat.lt_succ_of_le (Nat.div_le_div_right (by omega))

lemma mapCase_upper_cases (c : Char) :
    (∃ points, (c.toNat, points) ∈ upperExpansions ∧ mapCase upperRuns upperExpansions c = points.map Char.ofNat) ∨
    (∃ r ∈ upperRuns, c.toNat ∈ r.points ∧
      mapCase upperRuns upperExpansions c = [Char.ofNat (c.toNat + r.shift).toNat]) ∨
    mapCase upperRuns upperExpansions c = [c] := by
  unfold mapCase
  split
  · rename_i points hpoints
    exact .inl ⟨points, Assoc.mem_of_lookup hpoints, rfl⟩
  · split
    · rename_i r hr
      have hcovers : r.covers c.toNat = true := by simpa using List.find?_some hr
      exact .inr (.inl ⟨r, List.mem_of_find?_eq_some hr, CaseRun.mem_points hcovers, rfl⟩)
    · exact .inr (.inr rfl)

lemma upperChar_of_ascii {c : Char} (h : c.toNat < 128) : upperChar c = [c.toUpper] := if_pos h

lemma upperChar_of_not_ascii {c : Char} (h : ¬c.toNat < 128) :
    upperChar c = mapCase upperRuns upperExpansions c := if_neg h

lemma mapCase_of_not_mem {c : Char} (h : c.toNat ∉ raised) : mapCase upperRuns upperExpansions c = [c] := by
  rw [raised, List.mem_append, not_or] at h
  obtain ⟨points, hpoints, -⟩ | ⟨r, hr, hcovers, -⟩ | hsame := mapCase_upper_cases c
  · exact absurd (List.mem_map_of_mem hpoints) h.2
  · exact absurd (List.mem_flatMap.mpr ⟨r, hr, hcovers⟩) h.1
  · exact hsame

lemma upperChar_of_mem_raisedTo {n : ℕ} (h : n ∈ raisedTo) : upperChar (Char.ofNat n) = [Char.ofNat n] := by
  by_cases hvalid : n.isValidChar
  · have hn : (Char.ofNat n).toNat = n := by
      rw [Char.ofNat, dif_pos hvalid]
      rfl
    by_cases hascii : n < 128
    · rw [upperChar_of_ascii (hn.symm ▸ hascii), raisedTo_ascii n h hascii]
    · rw [upperChar_of_not_ascii (hn.symm ▸ hascii), mapCase_of_not_mem]
      rw [hn]
      exact not_mem_of_bits raisedTo_disjoint h
  · have hzero : Char.ofNat n = '\x00' := by
      rw [Char.ofNat, dif_neg hvalid]
      rfl
    rw [hzero]
    rfl

/-- A property of ASCII characters is settled by trying all of them. -/
lemma ascii_induction {P : Char → Prop} (h : ∀ n < 128, P (Char.ofNat n)) {c : Char} (hc : c.toNat < 128) :
    P c := by
  rw [← Char.ofNat_toNat c]
  exact h _ hc

lemma upperChar_of_mem {c d : Char} (h : d ∈ upperChar c) : upperChar d = [d] := by
  by_cases hc : c.toNat < 128
  · rw [upperChar_of_ascii hc, List.mem_singleton] at h
    rw [h]
    exact ascii_induction (P := fun c => upperChar c.toUpper = [c.toUpper]) (by decide +kernel) hc
  · rw [upperChar_of_not_ascii hc] at h
    obtain ⟨points, hpoints, hmap⟩ | ⟨r, hr, hcovers, hmap⟩ | hsame := mapCase_upper_cases c
    · rw [hmap] at h
      obtain ⟨n, hn, rfl⟩ := List.mem_map.mp h
      exact upperChar_of_mem_raisedTo (List.mem_append_right _ (List.mem_flatMap.mpr ⟨_, hpoints, hn⟩))
    · rw [hmap, List.mem_singleton] at h
      rw [h]
      exact upperChar_of_mem_raisedTo (List.mem_append_left _
        (List.mem_flatMap.mpr ⟨r, hr, List.mem_map.mpr ⟨_, hcovers, rfl⟩⟩))
    · rw [hsame, List.mem_singleton] at h
      rw [h, upperChar_of_not_ascii hc, hsame]

theorem toUpper_toUpper (s : String) : toUpper (toUpper s) = toUpper s := by
  unfold toUpper upperChars
  rw [String.toList_ofList, List.flatMap_assoc]
  congr 1
  refine List.flatMap_congr fun c _ => ?_
  calc (upperChar c).flatMap upperChar = (upperChar c).flatMap fun d => [d] :=
        List.flatMap_congr fun d hd => upperChar_of_mem hd
    _ = upperChar c := List.flatMap_singleton' _

/-- No character of the text beyond ASCII has an upper case. -/
def AsciiCased (s : String) : Prop := ∀ c ∈ s.toList, c.toNat < 128 ∨ upperChar c = [c]

instance (s : String) : Decidable (AsciiCased s) := List.decidableBAll _ s.toList

private lemma toLower_of_not_ascii {c : Char} (h : ¬c.toNat < 128) : c.toLower = c := by
  have hz : ¬c.val ≤ 'Z'.val := fun hle => h (lt_of_le_of_lt (UInt32.le_iff_toNat_le.mp hle) (by decide))
  exact dif_neg fun h => hz h.2

private lemma toLower_ascii {c : Char} (h : c.toNat < 128) : c.toLower.toNat < 128 :=
  ascii_induction (P := fun c => c.toLower.toNat < 128) (by decide +kernel) h

private lemma upperChar_toLower (c : Char) : upperChar c.toLower = upperChar c := by
  by_cases hc : c.toNat < 128
  · exact ascii_induction (P := fun c => upperChar c.toLower = upperChar c) (by decide +kernel) hc
  · rw [toLower_of_not_ascii hc]

private lemma upperChar_ne_nil (c : Char) : upperChar c ≠ [] := by
  by_cases hc : c.toNat < 128
  · rw [upperChar_of_ascii hc]
    exact List.cons_ne_nil _ _
  · have hall : ∀ e ∈ upperExpansions, e.2 ≠ [] := by decide +kernel
    rw [upperChar_of_not_ascii hc]
    obtain ⟨points, hpoints, hmap⟩ | ⟨r, -, -, hmap⟩ | hsame := mapCase_upper_cases c
    · rw [hmap, ne_eq, List.map_eq_nil_iff]
      exact hall _ hpoints
    · rw [hmap]
      exact List.cons_ne_nil _ _
    · rw [hsame]
      exact List.cons_ne_nil _ _

private lemma map_toLower_upperChar_iff (c : Char) :
    (upperChar c).map Char.toLower = [c.toLower] ↔ c.toNat < 128 ∨ upperChar c = [c] := by
  by_cases hc : c.toNat < 128
  · exact iff_of_true
      (ascii_induction (P := fun c => (upperChar c).map Char.toLower = [c.toLower]) (by decide +kernel) hc) (.inl hc)
  · rw [toLower_of_not_ascii hc, List.map_eq_singleton_iff]
    refine ⟨?_, fun h => ⟨c, h.resolve_left hc, toLower_of_not_ascii hc⟩⟩
    rintro ⟨d, hupper, hd⟩
    have hdc : ¬d.toNat < 128 := fun h => hc (hd ▸ toLower_ascii h)
    rw [toLower_of_not_ascii hdc] at hd
    exact .inr (hd ▸ hupper)

private lemma length_le_length_flatMap {α β : Type} {f : α → List β} (hf : ∀ a, f a ≠ []) (as : List α) :
    as.length ≤ (as.flatMap f).length := by
  induction as with
  | nil => simp
  | cons a as ih =>
    have hpos := List.length_pos_of_ne_nil (hf a)
    rw [List.flatMap_cons, List.length_append, List.length_cons]
    omega

/-- Where nothing is dropped, a list of the same length has one item for each. -/
private lemma flatMap_eq_map_iff {α β : Type} {f : α → List β} {g : α → β} (hf : ∀ a, f a ≠ []) (as : List α) :
    as.flatMap f = as.map g ↔ ∀ a ∈ as, f a = [g a] := by
  induction as with
  | nil => simp
  | cons a as ih =>
    rw [List.flatMap_cons, List.map_cons, List.forall_mem_cons]
    constructor
    · intro h
      have hlength := congrArg List.length h
      rw [List.length_append, List.length_cons, List.length_map] at hlength
      have hrest := length_le_length_flatMap hf as
      obtain ⟨b, bs, hb⟩ := List.exists_cons_of_ne_nil (hf a)
      rw [hb, List.length_cons] at hlength
      obtain rfl : bs = [] := List.eq_nil_of_length_eq_zero (by omega)
      rw [hb, List.singleton_append, List.cons.injEq] at h
      exact ⟨hb.trans (congrArg (fun b => [b]) h.1), ih.mp h.2⟩
    · rintro ⟨hfirst, hrest⟩
      rw [hfirst, ih.mpr hrest, List.singleton_append]

theorem eqIgnoringAsciiCase_toUpper_iff (s : String) : eqIgnoringAsciiCase (toUpper s) s = true ↔ AsciiCased s := by
  have hne (c : Char) : (upperChar c).map Char.toLower ≠ [] := by
    rw [ne_eq, List.map_eq_nil_iff]
    exact upperChar_ne_nil c
  rw [eqIgnoringAsciiCase, beq_iff_eq, toUpper, String.toList_ofList, upperChars, List.map_flatMap,
    flatMap_eq_map_iff hne]
  exact forall₂_congr fun c _ => map_toLower_upperChar_iff c

lemma toUpper_of_eqIgnoringAsciiCase {s t : String} (h : eqIgnoringAsciiCase s t = true) : toUpper s = toUpper t := by
  rw [eqIgnoringAsciiCase, beq_iff_eq] at h
  have hlower (cs : List Char) : upperChars (cs.map Char.toLower) = upperChars cs := by
    rw [upperChars, List.flatMap_map]
    exact List.flatMap_congr fun c _ => upperChar_toLower c
  rw [toUpper, toUpper, ← hlower, h, hlower]

lemma lowerAfter_of_ascii {cs : List Char} (h : ∀ c ∈ cs, c.toNat < 128) (before : List Char) :
    lowerAfter before cs = cs.map Char.toLower := by
  induction cs generalizing before with
  | nil => rfl
  | cons c cs ih =>
    obtain ⟨hc, hcs⟩ := List.forall_mem_cons.mp h
    have hsigma : c ≠ 'Σ' := by
      rintro rfl
      exact absurd hc (by decide)
    rw [lowerAfter, if_neg hsigma, lowerChar, if_pos hc, ih hcs, List.map_cons, List.singleton_append]

end LoginRisk.Text
