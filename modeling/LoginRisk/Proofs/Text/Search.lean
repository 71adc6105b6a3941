import LoginRisk.Text.Search
import Mathlib.Data.Finset.Card
import Mathlib.Data.Finset.Dedup
import Mathlib.Data.List.Infix
import Mathlib.Tactic.Lemma

/-!
Words inside texts, and the different members of a list.
-/

namespace LoginRisk.Text

lemma hasInfix_iff (part cs : List Char) : hasInfix part cs = true ↔ part <:+: cs := by
  induction cs with
  | nil => simp [hasInfix]
  | cons c cs ih => rw [hasInfix, Bool.or_eq_true, ih, List.isPrefixOf_iff_prefix, List.infix_cons_iff]

variable {α : Type} [DecidableEq α]

private lemma foldl_distinct (xs seen : List α) (hseen : seen.Nodup) :
    (xs.foldl (fun seen x => if seen.contains x then seen else seen ++ [x]) seen).Nodup ∧
    ∀ x, x ∈ xs.foldl (fun seen x => if seen.contains x then seen else seen ++ [x]) seen ↔
      x ∈ seen ∨ x ∈ xs := by
  induction xs generalizing seen with
  | nil => simpa using hseen
  | cons y ys ih =>
    rw [List.foldl_cons]
    by_cases hy : y ∈ seen
    · rw [if_pos (List.contains_iff_mem.mpr hy)]
      obtain ⟨hnodup, hmem⟩ := ih seen hseen
      refine ⟨hnodup, fun x => ?_⟩
      rw [hmem, List.mem_cons]
      constructor
      · exact Or.imp_right .inr
      · rintro (hx | rfl | hx)
        · exact .inl hx
        · exact .inl hy
        · exact .inr hx
    · rw [if_neg fun h => hy (List.contains_iff_mem.mp h)]
      have hnew : (seen ++ [y]).Nodup := by
        rw [List.nodup_append]
        refine ⟨hseen, List.nodup_singleton y, fun a ha b hb hab => hy ?_⟩
        rwa [← List.mem_singleton.mp hb, ← hab]
      obtain ⟨hnodup, hmem⟩ := ih (seen ++ [y]) hnew
      refine ⟨hnodup, fun x => ?_⟩
      rw [hmem, List.mem_append, List.mem_singleton, List.mem_cons, or_assoc]

lemma length_distinct (xs : List α) : (distinct xs).length = xs.toFinset.card := by
  obtain ⟨hnodup, hmem⟩ := foldl_distinct xs [] List.nodup_nil
  have hset : (distinct xs).toFinset = xs.toFinset := by
    ext x
    rw [List.mem_toFinset, List.mem_toFinset, distinct, hmem]
    simp
  rw [← hset]
  exact (List.toFinset_card_of_nodup hnodup).symm

end LoginRisk.Text
