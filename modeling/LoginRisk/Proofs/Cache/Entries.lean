import LoginRisk.Cache.Result
import Mathlib.Tactic.Lemma

/-!
What the operations of the cache do to its entries. Entries come in by insertion only, and what a
look-up answers is an entry of the key that keeps the rules.
-/

namespace LoginRisk.ResultCache

variable {s : CacheSettings} {clock : Nat} {c : ResultCache} {key : String} {r : Assessment}
  {x : String × CacheEntry}

lemma mem_of_lookup {e : CacheEntry} (h : c.entries.lookup key = some e) :
    (key, e) ∈ c.entries := by
  obtain ⟨l₁, l₂, heq, -⟩ := List.lookup_eq_some_iff.mp h
  simp [heq]

lemma mem_of_mem_remove (h : x ∈ (c.remove key).entries) : x ∈ c.entries :=
  (List.mem_filter.mp h).1

/-- All ways in which a look-up ends: nothing is found, or the entry has expired, or it breaks a rule, or
it is a hit and moves to the front. -/
lemma get_cases (s : CacheSettings) (clock : Nat) (c : ResultCache) (key : String) :
    (c.get s clock key = (c, .miss) ∧ (s.enabled = true → c.entries.lookup key = none)) ∨
    ∃ e, s.enabled = true ∧ c.entries.lookup key = some e ∧
      ((isExpired s clock e = true ∧ c.get s clock key = (c.remove key, .miss)) ∨
      (isExpired s clock e = false ∧ ∃ fault, e.assessment.firstFault = some fault ∧
        c.get s clock key = (c.remove key, .corrupted fault)) ∨
      (isExpired s clock e = false ∧ e.assessment.firstFault = none ∧
        c.get s clock key = (⟨(key, e) :: (c.remove key).entries⟩, .hit e.assessment))) := by
  unfold get
  split
  · rename_i hdisabled
    exact .inl ⟨rfl, fun henabled => by simp [henabled] at hdisabled⟩
  · rename_i henabled
    split
    · rename_i hnone
      exact .inl ⟨rfl, fun _ => hnone⟩
    · rename_i e he
      refine .inr ⟨e, by simpa using henabled, he, ?_⟩
      dsimp only
      split
      · rename_i hexpired
        exact .inl ⟨hexpired, rfl⟩
      · rename_i hlive
        have hlive : isExpired s clock e = false := by simpa using hlive
        split
        · rename_i fault hfault
          exact .inr (.inl ⟨hlive, fault, hfault, rfl⟩)
        · rename_i hvalid
          exact .inr (.inr ⟨hlive, hvalid, rfl⟩)

lemma mem_of_mem_get (h : x ∈ (c.get s clock key).1.entries) : x ∈ c.entries := by
  rcases get_cases s clock c key with ⟨heq, -⟩ |
    ⟨e, -, he, ⟨-, heq⟩ | ⟨-, fault, -, heq⟩ | ⟨-, -, heq⟩⟩ <;> rw [heq] at h
  · exact h
  · exact mem_of_mem_remove h
  · exact mem_of_mem_remove h
  · rcases List.mem_cons.mp h with rfl | h
    · exact mem_of_lookup he
    · exact mem_of_mem_remove h

lemma entry_of_hit (h : (c.get s clock key).2 = .hit r) :
    s.enabled = true ∧ r.firstFault = none ∧
    ∃ e, c.entries.lookup key = some e ∧ isExpired s clock e = false ∧ e.assessment = r := by
  rcases get_cases s clock c key with ⟨heq, -⟩ |
    ⟨e, henabled, he, ⟨-, heq⟩ | ⟨-, fault, -, heq⟩ | ⟨hlive, hvalid, heq⟩⟩ <;> rw [heq] at h
  · cases h
  · cases h
  · cases h
  · cases h
    exact ⟨henabled, hvalid, e, he, hlive, rfl⟩

/-- A hit is an entry of the key, and it keeps the rules. -/
theorem get_hit (h : (c.get s clock key).2 = .hit r) :
    r.firstFault = none ∧ ∃ e, (key, e) ∈ c.entries ∧ e.assessment = r := by
  obtain ⟨-, hvalid, e, he, -, hr⟩ := entry_of_hit h
  exact ⟨hvalid, e, mem_of_lookup he, hr⟩

lemma mem_insert_cases (henabled : s.enabled = true) (h : x ∈ (c.insert s clock key r).entries) :
    x = (key, ⟨r, clock⟩) ∨ (x ∈ c.entries ∧ x.1 ≠ key) := by
  rw [insert, henabled] at h
  rcases List.mem_cons.mp (List.mem_of_mem_take h) with rfl | h
  · exact .inl rfl
  · obtain ⟨hmem, hkey⟩ := List.mem_filter.mp h
    exact .inr ⟨hmem, of_decide_eq_true hkey⟩

lemma insert_of_disabled (hdisabled : s.enabled = false) : c.insert s clock key r = c := by
  rw [insert, hdisabled]
  rfl

lemma mem_of_mem_insert (h : x ∈ (c.insert s clock key r).entries) :
    x = (key, ⟨r, clock⟩) ∨ x ∈ c.entries := by
  cases henabled : s.enabled with
  | false =>
    rw [insert_of_disabled henabled] at h
    exact .inr h
  | true => exact (mem_insert_cases henabled h).imp_right And.left

lemma mem_of_mem_purge (h : x ∈ (c.purge s clock).entries) : x ∈ c.entries :=
  (List.mem_filter.mp h).1

lemma get_of_lookup {e : CacheEntry} (henabled : s.enabled = true)
    (h : c.entries.lookup key = some e) (hlive : isExpired s clock e = false)
    (hvalid : e.assessment.firstFault = none) :
    c.get s clock key = (⟨(key, e) :: (c.remove key).entries⟩, .hit e.assessment) := by
  simp [get, henabled, h, hlive, hvalid]

lemma entries_insert (henabled : s.enabled = true) (clock : Nat) (c : ResultCache) (key : String)
    (r : Assessment) :
    ∃ n, (c.insert s clock key r).entries = (key, ⟨r, clock⟩) :: (c.remove key).entries.take n := by
  obtain ⟨n, hn⟩ : ∃ n, capacity s = n + 1 := ⟨capacity s - 1, by unfold capacity; omega⟩
  exact ⟨n, by simp [insert, henabled, hn]⟩

lemma lookup_insert (henabled : s.enabled = true) :
    (c.insert s clock key r).entries.lookup key = some ⟨r, clock⟩ := by
  obtain ⟨n, hn⟩ := entries_insert henabled clock c key r
  simp [hn]

end LoginRisk.ResultCache
