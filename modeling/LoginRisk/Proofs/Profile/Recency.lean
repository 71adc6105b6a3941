import LoginRisk.Profile.Basic
import Mathlib.Data.Finset.Card
import Mathlib.Data.Finset.Dedup
import Mathlib.Data.List.Dedup
import Mathlib.Data.List.DropRight

/-!
What bounded lists hold after many additions. One that takes everything holds the last items, and one that
remembers holds the last distinct items, each at the place of its latest addition: this is how `List.dedup`
orders them, and `List.rtake` cuts them off.
-/

namespace LoginRisk

variable {α : Type}

lemma rtake_append_of_le {n : ℕ} (first : List α) {last : List α} (h : n ≤ last.length) :
    (first ++ last).rtake n = last.rtake n := by
  have hlength : (first ++ last).length - n = first.length + (last.length - n) := by
    rw [List.length_append]
    omega
  rw [List.rtake, hlength, List.drop_append, List.rtake]
  simp

lemma rtake_rtake (items : List α) (m n : ℕ) : (items.rtake m).rtake n = items.rtake (min n m) := by
  simp [List.rtake_eq_reverse_take_reverse, List.take_take]

lemma rtake_rtake_succ (items : List α) (n : ℕ) : (items.rtake (n + 1)).rtake n = items.rtake n := by
  rw [rtake_rtake, min_eq_left (Nat.le_succ n)]

lemma length_rtake (items : List α) (n : ℕ) : (items.rtake n).length = min items.length n := by
  rw [List.rtake, List.length_drop]
  omega

lemma rtake_eq_self_iff (items : List α) (n : ℕ) : items.rtake n = items ↔ items.length ≤ n := by
  constructor
  · intro h
    have hlength := length_rtake items n
    rw [h] at hlength
    omega
  · intro h
    rw [List.rtake, Nat.sub_eq_zero_of_le h, List.drop_zero]

lemma rtake_eq_rtake_succ_iff (items : List α) (n : ℕ) : items.rtake n = items.rtake (n + 1) ↔ items.length ≤ n := by
  rw [← rtake_rtake_succ, rtake_eq_self_iff, length_rtake]
  omega

/-- What a bounded list has dropped before makes no difference. -/
lemma pushBounded_rtake (items : List α) (item : α) (limit : ℕ) :
    pushBounded (items.rtake limit) item limit = (items ++ [item]).rtake limit := by
  change (items.rtake limit ++ [item]).rtake limit = _
  cases limit with
  | zero => rw [List.rtake_zero, List.rtake_zero]
  | succ n => rw [List.rtake_concat_succ, List.rtake_concat_succ, rtake_rtake_succ]

variable [DecidableEq α]

lemma dedup_concat (items : List α) (item : α) :
    (items ++ [item]).dedup = items.dedup.erase item ++ [item] := by
  induction items with
  | nil => simp
  | cons first items ih =>
    rw [List.cons_append]
    by_cases hmem : first ∈ items
    · rw [List.dedup_cons_of_mem (List.mem_append_left _ hmem), List.dedup_cons_of_mem hmem, ih]
    · by_cases heq : first = item
      · subst heq
        have hnot : first ∉ items.dedup := mt List.mem_dedup.mp hmem
        rw [List.dedup_cons_of_mem (by simp), ih, List.dedup_cons_of_notMem hmem, List.erase_cons_head,
          List.erase_of_not_mem hnot]
      · rw [List.dedup_cons_of_notMem (by simp [hmem, heq]), ih, List.dedup_cons_of_notMem hmem,
          List.erase_cons_tail (by simpa using heq), List.cons_append]

/-- Moving an item to the end of the last items of a list without repetitions, or of the whole list, leaves
the same items before it. -/
lemma rtake_erase_rtake {items : List α} (h : items.Nodup) (item : α) (n : ℕ) :
    ((items.rtake (n + 1)).erase item).rtake n = (items.erase item).rtake n := by
  obtain ⟨first, last, rfl, hlast, hlength⟩ : ∃ first last, items = first ++ last ∧
      items.rtake (n + 1) = last ∧ (first = [] ∨ last.length = n + 1) := by
    refine ⟨items.take (items.length - (n + 1)), _, (List.take_append_drop _ _).symm, rfl, ?_⟩
    rw [List.length_drop, List.take_eq_nil_iff]
    omega
  rw [hlast]
  obtain rfl | hlength := hlength
  · rw [List.nil_append]
  have herase : n ≤ (last.erase item).length := by
    have hle : last.length - 1 ≤ (last.erase item).length := List.le_length_erase
    omega
  by_cases hmem : item ∈ first
  · have hnot : item ∉ last := fun hitem => (List.nodup_append.mp h).2.2 item hmem item hitem rfl
    rw [List.erase_append_left _ hmem, List.erase_of_not_mem hnot, rtake_append_of_le _ (by omega)]
  · rw [List.erase_append_right _ hmem, rtake_append_of_le _ herase]

/-- A list that remembers goes on as if it had never been cut off. -/
lemma remember_rtake (items : List α) (item : α) (limit : ℕ) :
    remember (items.dedup.rtake limit) item limit = (items ++ [item]).dedup.rtake limit := by
  rw [dedup_concat]
  change ((items.dedup.rtake limit).erase item ++ [item]).rtake limit = _
  cases limit with
  | zero => rw [List.rtake_zero, List.rtake_zero]
  | succ n =>
    rw [List.rtake_concat_succ, List.rtake_concat_succ, rtake_erase_rtake (List.nodup_dedup items)]

def rememberAll (items added : List α) (limit : ℕ) : List α :=
  added.foldl (fun known item => remember known item limit) items

lemma rememberAll_concat (items added : List α) (item : α) (limit : ℕ) :
    rememberAll items (added ++ [item]) limit = remember (rememberAll items added limit) item limit :=
  List.foldl_append ..

lemma rememberAll_of_nodup {items added : List α} (hitems : items.Nodup) (hadded : added ≠ []) (limit : ℕ) :
    rememberAll items added limit = (items ++ added).dedup.rtake limit := by
  induction added using List.reverseRecOn with
  | nil => exact absurd rfl hadded
  | append_singleton added item ih =>
    rw [rememberAll_concat, ← List.append_assoc]
    by_cases hnil : added = []
    · rw [hnil, List.append_nil, dedup_concat, hitems.dedup]
      rfl
    · rw [ih hnil, remember_rtake]

lemma mem_remember (items : List α) (item : α) {limit : ℕ} (h : 1 ≤ limit) : item ∈ remember items item limit := by
  obtain ⟨n, rfl⟩ := Nat.exists_eq_add_of_le' h
  change item ∈ (items.erase item ++ [item]).rtake (n + 1)
  rw [List.rtake_concat_succ]
  simp

lemma mem_of_mem_remember {items : List α} {item other : α} {limit : ℕ} (h : other ∈ remember items item limit) :
    other ∈ items ∨ other = item := by
  rw [remember, pushBounded] at h
  have hall := List.mem_append.mp (List.mem_of_mem_drop h)
  exact hall.imp List.mem_of_mem_erase List.mem_singleton.mp

lemma mem_of_mem_rememberAll {items added : List α} {other : α} {limit : ℕ} (h : other ∈ rememberAll items added limit) :
    other ∈ items ∨ other ∈ added := by
  induction added using List.reverseRecOn with
  | nil => exact .inl h
  | append_singleton added item ih =>
    rw [rememberAll_concat] at h
    rw [List.mem_append, List.mem_singleton, ← or_assoc]
    exact (mem_of_mem_remember h).imp_left ih

omit [DecidableEq α] in
lemma mem_rtake_of_mem {first last : List α} {n : ℕ} (h : last.length ≤ n) {item : α} (hitem : item ∈ last) :
    item ∈ (first ++ last).rtake n := by
  rw [List.rtake, List.drop_append_of_le_length (by rw [List.length_append]; omega)]
  exact List.mem_append_right _ hitem

/-- An item stays in a list without repetitions while fewer other items than it has room for are added. -/
lemma mem_rememberAll {items added : List α} (hitems : items.Nodup) {item : α} (hitem : item ∈ added) {limit : ℕ}
    (hothers : (added.filter (· ≠ item)).toFinset.card < limit) : item ∈ rememberAll items added limit := by
  obtain ⟨last, first, hsplit, hlast⟩ := List.eq_append_cons_of_mem (List.mem_reverse.mpr hitem)
  have hadded : added = first.reverse ++ item :: last.reverse := by
    rw [← List.reverse_reverse added, hsplit]
    simp
  have hdedup : ∃ before, (items ++ added).dedup = before ++ item :: last.reverse.dedup := by
    obtain ⟨before, hbefore⟩ : (item :: last.reverse).dedup <:+ (items ++ added).dedup := by
      rw [hadded, ← List.append_assoc, List.dedup_append]
      exact List.suffix_union_right ..
    exact ⟨before, by rw [← hbefore, List.dedup_cons_of_notMem (by simpa using hlast)]⟩
  obtain ⟨before, hbefore⟩ := hdedup
  rw [rememberAll_of_nodup hitems (List.ne_nil_of_mem hitem), hbefore]
  refine mem_rtake_of_mem ?_ List.mem_cons_self
  have hsubset : last.reverse.toFinset ⊆ (added.filter (· ≠ item)).toFinset := by
    intro other hother
    rw [List.mem_toFinset, List.mem_reverse] at hother
    rw [List.mem_toFinset, List.mem_filter, hadded]
    exact ⟨by simp [hother], by simpa using fun heq : other = item => hlast (heq ▸ hother)⟩
  have hcard := Finset.card_le_card hsubset
  rw [List.card_toFinset] at hcard
  rw [List.length_cons]
  omega

end LoginRisk
