import LoginRisk.Assoc
import Mathlib.Algebra.Group.Nat.Defs
import Mathlib.Data.List.Induction
import Mathlib.Data.String.Basic
import Mathlib.Tactic.Lemma

/-!
Lists of entries as finite maps: what is found under a key after a change, that no key comes to stand
twice, and what counts add up to.
-/

namespace LoginRisk.Assoc

variable {κ α : Type} [BEq κ] [LawfulBEq κ]

lemma lookup_put (key : κ) (value : α) (entries : List (κ × α)) :
    (put key value entries).lookup key = some value := by
  induction entries with
  | nil => simp [put]
  | cons entry rest ih =>
    rw [put]
    split
    · simp
    · rename_i h
      have hne : (key == entry.1) = false := by
        rw [beq_eq_false_iff_ne]
        rintro rfl
        simp at h
      rw [List.lookup_cons, hne, ih]

lemma lookup_put_of_ne {key other : κ} (h : other ≠ key) (value : α)
    (entries : List (κ × α)) : (put key value entries).lookup other = entries.lookup other := by
  have hne : (other == key) = false := beq_eq_false_iff_ne.mpr h
  induction entries with
  | nil => rw [put, List.lookup_cons, hne]
  | cons entry rest ih =>
    rw [put]
    split
    · rename_i hkey
      rw [beq_iff_eq] at hkey
      rw [List.lookup_cons, List.lookup_cons, hkey, hne]
    · rw [List.lookup_cons, List.lookup_cons, ih]

omit [LawfulBEq κ] in
lemma mem_put {key : κ} {value : α} {entries : List (κ × α)} {entry : κ × α}
    (h : entry ∈ put key value entries) : entry = (key, value) ∨ entry ∈ entries := by
  induction entries with
  | nil => exact .inl (List.mem_singleton.mp h)
  | cons first rest ih =>
    rw [put] at h
    split at h
    · rcases List.mem_cons.mp h with h | h
      · exact .inl h
      · exact .inr (List.mem_cons_of_mem _ h)
    · rcases List.mem_cons.mp h with rfl | h
      · exact .inr List.mem_cons_self
      · exact (ih h).imp_right (List.mem_cons_of_mem _)

lemma mem_keys_put {key other : κ} {value : α} {entries : List (κ × α)} :
    other ∈ (put key value entries).map Prod.fst ↔ other = key ∨ other ∈ entries.map Prod.fst := by
  induction entries with
  | nil => simp [put]
  | cons entry rest ih =>
    rw [put]
    split
    · rename_i hkey
      rw [beq_iff_eq] at hkey
      simp [hkey]
    · rw [List.map_cons, List.mem_cons, ih, List.map_cons, List.mem_cons, or_left_comm]

lemma nodup_put {key : κ} {value : α} {entries : List (κ × α)}
    (h : (entries.map Prod.fst).Nodup) : ((put key value entries).map Prod.fst).Nodup := by
  induction entries with
  | nil => simp [put]
  | cons first rest ih =>
    rw [List.map_cons, List.nodup_cons] at h
    rw [put]
    split
    · rename_i hkey
      rw [beq_iff_eq] at hkey
      rw [List.map_cons, List.nodup_cons, ← hkey]
      exact h
    · rename_i hkey
      rw [beq_iff_eq] at hkey
      rw [List.map_cons, List.nodup_cons]
      refine ⟨fun hmem => ?_, ih h.2⟩
      obtain ⟨entry, hentry, hfst⟩ := List.mem_map.mp hmem
      rcases mem_put hentry with rfl | hentry
      · exact hkey hfst.symm
      · exact h.1 (List.mem_map.mpr ⟨entry, hentry, hfst⟩)

lemma mem_of_lookup {key : κ} {value : α} {entries : List (κ × α)}
    (h : entries.lookup key = some value) : (key, value) ∈ entries := by
  obtain ⟨before, after, rfl, -⟩ := List.lookup_eq_some_iff.mp h
  simp

/-- While no key stands twice, what is found under a key is its only entry. -/
lemma lookup_eq_some_iff {key : κ} {value : α} {entries : List (κ × α)}
    (h : (entries.map Prod.fst).Nodup) : entries.lookup key = some value ↔ (key, value) ∈ entries := by
  refine ⟨mem_of_lookup, fun hmem => ?_⟩
  obtain ⟨before, after, rfl⟩ := List.append_of_mem hmem
  rw [List.lookup_eq_some_iff]
  refine ⟨before, after, rfl, fun entry hentry => ?_⟩
  rw [List.map_append, List.nodup_append] at h
  have hne := h.2.2 _ (List.mem_map_of_mem hentry) key (by simp)
  exact bne_iff_ne.mpr (Ne.symm hne)

omit [LawfulBEq κ] in
lemma lookup_map {β : Type} (f : α → β) (key : κ) (entries : List (κ × α)) :
    (entries.map fun entry => (entry.1, f entry.2)).lookup key = (entries.lookup key).map f := by
  induction entries with
  | nil => rfl
  | cons entry rest ih =>
    rw [List.map_cons, List.lookup_cons, List.lookup_cons, ih]
    cases key == entry.1 <;> rfl

omit [LawfulBEq κ] in
lemma map_put {β : Type} (f : α → β) (key : κ) (value : α) (entries : List (κ × α)) :
    (put key value entries).map (fun entry => (entry.1, f entry.2)) =
      put key (f value) (entries.map fun entry => (entry.1, f entry.2)) := by
  induction entries with
  | nil => rfl
  | cons entry rest ih =>
    rw [put, List.map_cons, put]
    split
    · rfl
    · rw [List.map_cons, ih]

lemma lookup_filter {entries : List (κ × α)} (h : (entries.map Prod.fst).Nodup)
    (p : α → Bool) (key : κ) :
    (entries.filter fun entry => p entry.2).lookup key = (entries.lookup key).filter p := by
  induction entries with
  | nil => rfl
  | cons entry rest ih =>
    rw [List.map_cons, List.nodup_cons] at h
    rw [List.filter_cons, List.lookup_cons]
    by_cases hkey : key = entry.1
    · -- The key stands nowhere else, so that nothing is found once its entry is gone.
      subst hkey
      have hnone : (rest.filter fun entry => p entry.2).lookup entry.1 = none := by
        rw [List.lookup_eq_none_iff]
        intro other hother
        rw [bne_iff_ne]
        intro hsame
        exact h.1 (hsame ▸ List.mem_map_of_mem ((List.mem_filter.mp hother).1))
      cases hp : p entry.2
      · simp [hnone, Option.filter, hp]
      · rw [if_pos rfl, List.lookup_cons]
        simp [Option.filter, hp]
    · have hne : (key == entry.1) = false := beq_eq_false_iff_ne.mpr hkey
      rw [hne, ← ih h.2]
      split
      · rw [List.lookup_cons, hne]
      · rfl

section Sorted

variable {entries : List (String × α)}

lemma lookup_putSorted (key : String) (value : α) (entries : List (String × α)) :
    (putSorted key value entries).lookup key = some value := by
  induction entries with
  | nil => simp [putSorted]
  | cons entry rest ih =>
    rw [putSorted]
    split
    · simp
    · split
      · simp
      · rename_i hne
        have hbeq : (key == entry.1) = false := beq_eq_false_iff_ne.mpr hne
        rw [List.lookup_cons, hbeq, ih]

lemma lookup_putSorted_of_ne {key other : String} (h : other ≠ key) (value : α) (entries : List (String × α)) :
    (putSorted key value entries).lookup other = entries.lookup other := by
  have hne : (other == key) = false := beq_eq_false_iff_ne.mpr h
  induction entries with
  | nil => rw [putSorted, List.lookup_cons, hne]
  | cons entry rest ih =>
    rw [putSorted]
    split
    · rw [List.lookup_cons, hne]
    · split
      · rename_i hkey
        rw [List.lookup_cons, List.lookup_cons, ← hkey, hne]
      · rw [List.lookup_cons, List.lookup_cons, ih]

lemma mem_putSorted {key : String} {value : α} {entry : String × α} (h : entry ∈ putSorted key value entries) :
    entry = (key, value) ∨ entry ∈ entries := by
  induction entries with
  | nil => exact .inl (List.mem_singleton.mp h)
  | cons first rest ih =>
    rw [putSorted] at h
    split at h
    · exact List.mem_cons.mp h
    · split at h
      · exact (List.mem_cons.mp h).imp_right (List.mem_cons_of_mem _)
      · rcases List.mem_cons.mp h with rfl | h
        · exact .inr List.mem_cons_self
        · exact (ih h).imp_right (List.mem_cons_of_mem _)

lemma pairwise_putSorted (key : String) (value : α) (h : (entries.map Prod.fst).Pairwise (· < ·)) :
    ((putSorted key value entries).map Prod.fst).Pairwise (· < ·) := by
  induction entries with
  | nil => simp [putSorted]
  | cons first rest ih =>
    have hfirst := List.pairwise_cons.mp h
    rw [putSorted]
    split
    · rename_i hless
      refine List.pairwise_cons.mpr ⟨fun other hother => ?_, h⟩
      rcases List.mem_cons.mp hother with rfl | hother
      · exact hless
      · exact hless.trans (hfirst.1 other hother)
    · split
      · rename_i hkey
        rw [List.map_cons, hkey]
        exact h
      · rename_i hless hne
        refine List.pairwise_cons.mpr ⟨fun other hother => ?_, ih hfirst.2⟩
        obtain ⟨entry, hentry, rfl⟩ := List.mem_map.mp hother
        rcases mem_putSorted hentry with rfl | hentry
        · exact lt_of_le_of_ne (not_lt.mp hless) (Ne.symm hne)
        · exact hfirst.1 _ (List.mem_map_of_mem hentry)

lemma nodup_of_pairwise (h : (entries.map Prod.fst).Pairwise (· < ·)) : (entries.map Prod.fst).Nodup :=
  h.imp fun hless => ne_of_lt hless

lemma pairwise_sorted (entries : List (String × α)) : ((sorted entries).map Prod.fst).Pairwise (· < ·) := by
  have hfold (done : List (String × α)) (h : (done.map Prod.fst).Pairwise (· < ·)) :
      ((entries.foldl (fun done entry => putSorted entry.1 entry.2 done) done).map Prod.fst).Pairwise (· < ·) := by
    induction entries generalizing done with
    | nil => exact h
    | cons entry rest ih => exact ih _ (pairwise_putSorted entry.1 entry.2 h)
  exact hfold [] .nil

lemma lookup_sorted_map (keys : List String) (value : α) (key : String) :
    (sorted (keys.map fun k => (k, value))).lookup key = if key ∈ keys then some value else none := by
  have hfold (done : List (String × α)) :
      ((keys.map fun k => (k, value)).foldl (fun done entry => putSorted entry.1 entry.2 done) done).lookup key =
        if key ∈ keys then some value else done.lookup key := by
    induction keys generalizing done with
    | nil => simp
    | cons k rest ih =>
      rw [List.map_cons, List.foldl_cons, ih]
      by_cases hk : key = k
      · subst hk
        simp [lookup_putSorted]
      · simp [lookup_putSorted_of_ne hk, hk]
  exact hfold []

end Sorted

section Tally

variable {entries : List (String × ℕ)} {kind : String → Prop} [DecidablePred kind]

/-- What the counts of all keys of a kind add up to. -/
def total (kind : String → Prop) [DecidablePred kind] : List (String × ℕ) → ℕ
  | [] => 0
  | entry :: entries => (if kind entry.1 then entry.2 else 0) + total kind entries

def tallyAll (keys : List String) : List (String × ℕ) := keys.foldl (fun counts key => tally key counts) []

lemma tallyAll_concat (keys : List String) (key : String) : tallyAll (keys ++ [key]) = tally key (tallyAll keys) :=
  List.foldl_append ..

lemma pairwise_tallyAll (keys : List String) : ((tallyAll keys).map Prod.fst).Pairwise (· < ·) := by
  induction keys using List.reverseRecOn with
  | nil => exact .nil
  | append_singleton keys key ih =>
    rw [tallyAll_concat]
    exact pairwise_putSorted _ _ ih

lemma lookup_tallyAll (keys : List String) (key : String) : ((tallyAll keys).lookup key).getD 0 = keys.count key := by
  induction keys using List.reverseRecOn with
  | nil => rfl
  | append_singleton keys other ih =>
    rw [tallyAll_concat, tally, List.count_append, List.count_singleton, ← ih]
    by_cases hkey : key = other
    · subst hkey
      rw [lookup_putSorted, Option.getD_some, if_pos (beq_self_eq_true key)]
    · rw [lookup_putSorted_of_ne hkey, if_neg (by simpa using Ne.symm hkey), add_zero]

lemma mem_keys_tallyAll {keys : List String} {entry : String × ℕ} (h : entry ∈ tallyAll keys) : entry.1 ∈ keys := by
  induction keys using List.reverseRecOn with
  | nil => cases h
  | append_singleton keys key ih =>
    rw [tallyAll_concat] at h
    rcases mem_putSorted h with rfl | h
    · simp
    · exact List.mem_append_left _ (ih h)

lemma pos_of_mem_tallyAll {keys : List String} {entry : String × ℕ} (h : entry ∈ tallyAll keys) : 0 < entry.2 := by
  have hlookup := (lookup_eq_some_iff (nodup_of_pairwise (pairwise_tallyAll keys))).mpr h
  have hcount := lookup_tallyAll keys entry.1
  rw [hlookup, Option.getD_some] at hcount
  rw [hcount]
  exact List.count_pos_iff.mpr (mem_keys_tallyAll h)

lemma total_putSorted (kind : String → Prop) [DecidablePred kind] (h : (entries.map Prod.fst).Pairwise (· < ·))
    (key : String) (n : ℕ) :
    total kind (putSorted key n entries) + (if kind key then (entries.lookup key).getD 0 else 0) =
      total kind entries + if kind key then n else 0 := by
  induction entries with
  | nil => simp [putSorted, total, add_comm]
  | cons first rest ih =>
    obtain ⟨hfirst, hrest⟩ := List.pairwise_cons.mp h
    rw [putSorted]
    split
    · -- All keys are greater, so that there was no count before.
      rename_i hless
      have hnone : (first :: rest).lookup key = none := by
        rw [List.lookup_eq_none_iff]
        intro entry hentry
        rcases List.mem_cons.mp hentry with rfl | hentry
        · exact bne_iff_ne.mpr hless.ne
        · exact bne_iff_ne.mpr (hless.trans (hfirst _ (List.mem_map_of_mem hentry))).ne
      rw [total, hnone]
      simp [add_comm]
    · split
      · rename_i hkey
        rw [total, total, hkey, List.lookup_cons, beq_self_eq_true]
        by_cases hkind : kind first.1
        · simp only [if_pos hkind, Option.getD_some]
          omega
        · simp [hkind]
      · rename_i hne
        rw [total, total, List.lookup_cons, beq_eq_false_iff_ne.mpr hne, add_assoc, ih hrest, add_assoc]

lemma total_tally (h : (entries.map Prod.fst).Pairwise (· < ·)) (key : String) :
    total kind (tally key entries) = total kind entries + if kind key then 1 else 0 := by
  have hsum := total_putSorted kind h key ((entries.lookup key).getD 0 + 1)
  rw [tally]
  split_ifs at hsum ⊢ <;> omega

/-- The counts of the keys of a kind add up to how many of the keys are of that kind. -/
lemma total_tallyAll (keys : List String) : total kind (tallyAll keys) = keys.countP fun key => kind key := by
  induction keys using List.reverseRecOn with
  | nil => rfl
  | append_singleton keys key ih =>
    rw [tallyAll_concat, total_tally (pairwise_tallyAll keys), ih, List.countP_append, List.countP_singleton]
    simp

end Tally

end LoginRisk.Assoc
