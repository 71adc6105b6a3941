import Mathlib.Data.List.Basic
import Mathlib.Tactic.Lemma

/-!
Numbers as digits, and texts between separators: both can be read back. A text is cut at the same place
when as many separators come before the cut.
-/

namespace LoginRisk.Text

def digitChars : List Char := (List.range 16).map Nat.digitChar

lemma digitChar_injective {m n : Nat} (hm : m < 16) (hn : n < 16)
    (h : Nat.digitChar m = Nat.digitChar n) : m = n := by
  have hall : ∀ i < 16, ∀ j < 16, Nat.digitChar i = Nat.digitChar j → i = j := by decide
  exact hall m hm n hn h

lemma mem_digitChars_of_mem_toDigits {b : Nat} (hb : 1 < b) (hb' : b ≤ 16) (n : Nat) :
    ∀ c ∈ Nat.toDigits b n, c ∈ digitChars := by
  induction n using Nat.strongRecOn with
  | ind n ih =>
    intro c hc
    rw [Nat.toDigits_eq_if hb] at hc
    have hdigit (d : Nat) (hd : d < 16) : Nat.digitChar d ∈ digitChars :=
      List.mem_map.mpr ⟨d, List.mem_range.mpr hd, rfl⟩
    split at hc
    · rename_i hn
      rw [List.mem_singleton.mp hc]
      exact hdigit n (by omega)
    · rename_i hn
      rcases List.mem_append.mp hc with hc | hc
      · exact ih (n / b) (Nat.div_lt_self (by omega) hb) c hc
      · rw [List.mem_singleton.mp hc]
        exact hdigit _ (Nat.lt_of_lt_of_le (Nat.mod_lt n (by omega)) hb')

lemma toDigits_injective {b : Nat} (hb : 1 < b) (hb' : b ≤ 16) :
    Function.Injective (Nat.toDigits b) := by
  intro m
  induction m using Nat.strongRecOn with
  | ind m ih =>
    intro n h
    rw [Nat.toDigits_eq_if hb, Nat.toDigits_eq_if hb (n := n)] at h
    have hmod (k : Nat) : k % b < 16 := Nat.lt_of_lt_of_le (Nat.mod_lt k (by omega)) hb'
    split at h <;> split at h
    · exact digitChar_injective (by omega) (by omega) (List.singleton_inj.mp h)
    · exact absurd (List.append_eq_singleton_iff.mp h.symm) (by simp)
    · exact absurd (List.append_eq_singleton_iff.mp h) (by simp)
    · obtain ⟨hinit, hlast⟩ := List.append_inj' h rfl
      have hdiv := ih (m / b) (Nat.div_lt_self (by omega) hb) hinit
      have hmod := digitChar_injective (hmod m) (hmod n) (List.singleton_inj.mp hlast)
      rw [← Nat.div_add_mod m b, ← Nat.div_add_mod n b, hdiv, hmod]

variable {α : Type} [DecidableEq α]

/-- Text that goes on after a separator is cut at the same place when the separators before it are as
many. -/
lemma append_cons_inj_of_count {s : α} {x y r t : List α} (hcount : x.count s = y.count s)
    (h : x ++ s :: r = y ++ s :: t) : x = y ∧ r = t := by
  induction x generalizing y with
  | nil =>
    cases y with
    | nil => exact ⟨rfl, List.tail_eq_of_cons_eq h⟩
    | cons d y =>
      obtain rfl := List.head_eq_of_cons_eq h
      simp at hcount
  | cons c x ih =>
    cases y with
    | nil =>
      obtain rfl := List.head_eq_of_cons_eq h
      simp at hcount
    | cons d y =>
      obtain rfl := List.head_eq_of_cons_eq h
      obtain ⟨rfl, rfl⟩ := ih (by simpa [List.count_cons] using hcount) (List.tail_eq_of_cons_eq h)
      exact ⟨rfl, rfl⟩

lemma append_cons_inj_of_not_mem {s : α} {x y r t : List α} (hr : s ∉ r) (ht : s ∉ t)
    (h : x ++ s :: r = y ++ s :: t) : x = y ∧ r = t := by
  have hreverse : r.reverse ++ s :: x.reverse = t.reverse ++ s :: y.reverse := by
    simpa using congrArg List.reverse h
  have hcount : r.reverse.count s = t.reverse.count s := by
    rw [List.count_reverse, List.count_reverse, List.count_eq_zero.mpr hr, List.count_eq_zero.mpr ht]
  obtain ⟨hrt, hxy⟩ := append_cons_inj_of_count hcount hreverse
  exact ⟨List.reverse_inj.mp hxy, List.reverse_inj.mp hrt⟩

end LoginRisk.Text
