import LoginRisk.Embedding.Analyze
import LoginRisk.Proofs.Number.Exact

/-!
The comparison of a vector with earlier ones and with known attacks reports the largest closeness, and the attack
that reaches it first.
-/

namespace LoginRisk.Embedding

open Number

def larger (best x : Float) : Float := if best < x then x else best

def largest (xs : List Float) : Float := xs.foldl larger 0.0

/-- The number is as large as any of the scores and no larger than all of them; it is zero when there are none. -/
structure IsLargest (xs : List Float) (m : Float) : Prop where
  le : ∀ x ∈ xs, x ≤ m
  attained : xs ≠ [] → ∃ x ∈ xs, m ≤ x
  of_nil : xs = [] → m = 0.0

lemma largest_concat (xs : List Float) (x : Float) : largest (xs ++ [x]) = larger (largest xs) x := by
  simp [largest]

section Largest

variable {xs ys : List Float}

lemma largest_eq_zero_or_mem (xs : List Float) : largest xs = 0.0 ∨ 0.0 < largest xs ∧ largest xs ∈ xs := by
  induction xs using List.reverseRecOn with
  | nil => exact .inl rfl
  | append_singleton xs x ih =>
    rw [largest_concat, larger]
    split_ifs with hx
    · have hpos : 0.0 < x := by
        rcases ih with hzero | ⟨hpos, -⟩
        · rwa [hzero] at hx
        · exact float_lt_of_le_of_lt (float_le_of_lt hpos) hx
      exact .inr ⟨hpos, by simp⟩
    · exact ih.imp_right fun h => ⟨h.1, List.mem_append_left _ h.2⟩

lemma largest_mem (h : 0.0 < largest xs) : largest xs ∈ xs := by
  rcases largest_eq_zero_or_mem xs with hzero | ⟨-, hmem⟩
  · rw [hzero] at h
    exact absurd h (by decide)
  · exact hmem

lemma zero_le_largest : 0.0 ≤ largest xs := by
  rcases largest_eq_zero_or_mem xs with hzero | ⟨hpos, -⟩
  · rw [hzero]
    decide
  · exact float_le_of_lt hpos

lemma le_largest (h : ∀ x ∈ xs, isUnit x = true) : ∀ x ∈ xs, x ≤ largest xs := by
  induction xs using List.reverseRecOn with
  | nil => simp
  | append_singleton xs x ih =>
    have hunit : ∀ y ∈ xs, isUnit y = true := fun y hy => h y (List.mem_append_left _ hy)
    have hx := isNaN_of_isFinite (isFinite_of_isUnit (h x (by simp)))
    have hbest : (largest xs).isNaN = false := ((float_le_iff _ _).mp zero_le_largest).2.1
    rw [largest_concat, larger]
    intro y hy
    rcases List.mem_append.mp hy with hy | hy
    · split_ifs with hlt
      · exact float_le_trans (ih hunit y hy) (float_le_of_lt hlt)
      · exact ih hunit y hy
    · rw [List.mem_singleton.mp hy]
      split_ifs with hlt
      · exact (float_le_iff x x).mpr ⟨hx, hx, le_rfl⟩
      · exact float_le_of_not_lt hbest hx hlt

lemma isLargest_largest (h : ∀ x ∈ xs, isUnit x = true) : IsLargest xs (largest xs) := by
  refine ⟨le_largest h, fun hne => ?_, fun hnil => hnil ▸ rfl⟩
  rcases largest_eq_zero_or_mem xs with hzero | ⟨hpos, hmem⟩
  · obtain ⟨x, hx⟩ := List.exists_mem_of_ne_nil xs hne
    rw [hzero]
    exact ⟨x, hx, ((isUnit_iff x).mp (h x hx)).2.1⟩
  · exact ⟨_, hmem, le_largest h _ hmem⟩

lemma largest_mono (hys : ∀ y ∈ ys, isUnit y = true) (h : xs ⊆ ys) : largest xs ≤ largest ys := by
  rcases largest_eq_zero_or_mem xs with hzero | ⟨-, hmem⟩
  · rw [hzero]
    exact zero_le_largest
  · exact le_largest hys _ (h hmem)

lemma largest_eq_of_subset (hxs : ∀ x ∈ xs, isUnit x = true) (hys : ∀ y ∈ ys, isUnit y = true) (h : xs ⊆ ys)
    (h' : ys ⊆ xs) : largest xs = largest ys := by
  have hle := largest_mono hys h
  have hge := largest_mono hxs h'
  rcases largest_eq_zero_or_mem xs with hxs0 | ⟨hpos, -⟩
  · rcases largest_eq_zero_or_mem ys with hys0 | ⟨hpos, -⟩
    · rw [hxs0, hys0]
    · exact (float_eq_of_le_of_le hpos hge hle).symm
  · exact float_eq_of_le_of_le hpos hle hge

end Largest

lemma isUnit_closeness (a b : List Float32) : isUnit (closeness a b) = true := isUnit_clampUnit _

lemma isUnit_of_mem_map_closeness {α : Type} {v : List Float32} {f : α → List Float32} {l : List α} :
    ∀ x ∈ l.map fun y => closeness v (f y), isUnit x = true := by
  intro x hx
  obtain ⟨y, -, rfl⟩ := List.mem_map.mp hx
  exact isUnit_closeness v (f y)

section Attacks

variable {v : List Float32} {attacks : List (String × List Float32)}

lemma nearest_concat (attack : String × List Float32) :
    nearest v (attacks ++ [attack]) =
      if (nearest v attacks).2 < closeness v attack.2 then (some attack.1, closeness v attack.2)
      else nearest v attacks := by
  rw [nearest, List.foldl_concat]
  rfl

lemma nearest_snd : (nearest v attacks).2 = largest (attacks.map fun attack => closeness v attack.2) := by
  induction attacks using List.reverseRecOn with
  | nil => rfl
  | append_singleton attacks attack ih =>
    rw [nearest_concat, List.map_append, List.map_singleton, largest_concat, larger, ← ih]
    split_ifs <;> rfl

lemma closeness_le_nearest : ∀ attack ∈ attacks, closeness v attack.2 ≤ (nearest v attacks).2 := by
  intro attack hattack
  rw [nearest_snd]
  exact le_largest isUnit_of_mem_map_closeness _ (List.mem_map_of_mem hattack)

/-- The attack is named that is the first to come as close as any, if any comes close at all. -/
lemma nearest_fst : (nearest v attacks).1 =
    if 0.0 < (nearest v attacks).2 then
      (attacks.find? fun attack => closeness v attack.2 = (nearest v attacks).2).map Prod.fst
    else none := by
  induction attacks using List.reverseRecOn with
  | nil => exact (if_neg (show ¬(0.0 : Float) < 0.0 by decide)).symm
  | append_singleton attacks attack ih =>
    have hzero : 0.0 ≤ (nearest v attacks).2 := nearest_snd ▸ zero_le_largest
    by_cases hcloser : (nearest v attacks).2 < closeness v attack.2
    · -- Nothing before the attack comes as close.
      have hbefore : (attacks.find? fun other => closeness v other.2 = closeness v attack.2) = none := by
        simp only [List.find?_eq_none, decide_eq_true_eq]
        intro other hother heq
        exact not_float_lt_of_le (closeness_le_nearest other hother) (heq ▸ hcloser)
      rw [nearest_concat, if_pos hcloser, if_pos (float_lt_of_le_of_lt hzero hcloser), List.find?_append, hbefore]
      simp
    · rw [nearest_concat, if_neg hcloser]
      by_cases hpos : 0.0 < (nearest v attacks).2
      · -- What comes closest is among those before the attack.
        obtain ⟨first, hfirst⟩ : ∃ first,
            (attacks.find? fun other => closeness v other.2 = (nearest v attacks).2) = some first := by
          rw [← Option.isSome_iff_exists, List.find?_isSome]
          obtain ⟨other, hother, heq⟩ := List.mem_map.mp (largest_mem (nearest_snd ▸ hpos))
          exact ⟨other, hother, by simp [heq, nearest_snd]⟩
        rw [ih, if_pos hpos, if_pos hpos, List.find?_append, hfirst]
        rfl
      · rw [ih, if_neg hpos, if_neg hpos]

end Attacks

/-- What is reported about a vector that is compared with earlier ones and with the known attacks. -/
structure Compared (s : EmbeddingSettings) (history : List (List Float32)) (e found : EmbeddingFindings) : Prop where
  profile : IsLargest (history.map (closeness e.vector)) found.profileSimilarity
  outlier : found.outlierScore =
    clampUnit (if history = [] then s.coldStartOutlierScore else 1.0 - found.profileSimilarity)
  attack : IsLargest ((prototypes s.dimension).map fun attack => closeness e.vector attack.2) found.attackSimilarity
  cluster : found.cluster =
    if s.clusterThreshold ≤ found.attackSimilarity ∧ 0.0 < found.attackSimilarity then
      ((prototypes s.dimension).find? fun attack =>
        closeness e.vector attack.2 = found.attackSimilarity).map Prod.fst
    else none

section Score

variable {s : EmbeddingSettings} {p p' : Option Profile} {e : EmbeddingFindings}

def similarities (e : EmbeddingFindings) (p : Option Profile) : List Float :=
  (comparable e.vector.length p).map (closeness e.vector)

lemma isUnit_of_mem_similarities : ∀ x ∈ similarities e p, isUnit x = true := isUnit_of_mem_map_closeness

lemma compare_eq : compare s p e =
    { e with
      profileSimilarity := largest (similarities e p)
      outlierScore := clampUnit
        (if (comparable e.vector.length p).isEmpty then s.coldStartOutlierScore
          else 1.0 - largest (similarities e p))
      attackSimilarity := (nearest e.vector (prototypes s.dimension)).2
      cluster := if s.clusterThreshold ≤ (nearest e.vector (prototypes s.dimension)).2 then
        (nearest e.vector (prototypes s.dimension)).1 else none } := by
  rw [compare, similarities, largest, List.foldl_map]
  rfl

lemma compared_compare : Compared s (comparable e.vector.length p) e (compare s p e) := by
  rw [compare_eq]
  refine ⟨isLargest_largest isUnit_of_mem_similarities, ?_, ?_, ?_⟩
  · simp only [List.isEmpty_iff]
  · dsimp only
    rw [nearest_snd]
    exact isLargest_largest isUnit_of_mem_map_closeness
  · dsimp only
    generalize prototypes s.dimension = attacks
    rw [nearest_fst, ite_and]

lemma compare_eq_of_perm (h : (comparable e.vector.length p).Perm (comparable e.vector.length p')) :
    compare s p e = compare s p' e := by
  have hsimilarities := h.map (closeness e.vector)
  have hlargest : largest (similarities e p) = largest (similarities e p') :=
    largest_eq_of_subset isUnit_of_mem_similarities isUnit_of_mem_similarities hsimilarities.subset
      hsimilarities.symm.subset
  rw [compare_eq, compare_eq, hlargest, h.isEmpty_eq]

lemma profileSimilarity_mono (h : comparable e.vector.length p ⊆ comparable e.vector.length p') :
    (compare s p e).profileSimilarity ≤ (compare s p' e).profileSimilarity := by
  rw [compare_eq, compare_eq]
  exact largest_mono isUnit_of_mem_similarities (List.map_subset _ h)

/-- The comparison with a profile, or without one, is exact: largest closenesses and the attack that reaches its one
first. It goes by the stored vectors of the same length, not by their order, and finds no less when there are more. -/
theorem score_reports_largest {profiles : ProfileStore} {a : Attempt} (h : profiles.load a.profileKey = .ok p) :
    ∃ found, score s profiles a e = .value found ∧ Compared s (comparable e.vector.length p) e found ∧
      ∀ profiles' p', profiles'.load a.profileKey = .ok p' → ∃ found', score s profiles' a e = .value found' ∧
        ((comparable e.vector.length p).Perm (comparable e.vector.length p') → found = found') ∧
        (comparable e.vector.length p ⊆ comparable e.vector.length p' →
          found.profileSimilarity ≤ found'.profileSimilarity) := by
  have hscore : ∀ (profiles : ProfileStore) p, profiles.load a.profileKey = .ok p →
      score s profiles a e = .value (compare s p e) := by
    intro profiles p h
    rw [score, h]
  refine ⟨compare s p e, hscore profiles p h, compared_compare, fun profiles' p' h' => ?_⟩
  exact ⟨compare s p' e, hscore profiles' p' h', compare_eq_of_perm, profileSimilarity_mono⟩

end Score

def loginOfAnn : Attempt where
  email := "ann@example.org"
  credentialDigest := ""
  clientAddress := .v4 0
  userAgent := ""
  timestamp := ⟨0, 0⟩
  requestId := ""
  userId := some "ann"

def remembering (vectors : List (List Float32)) : ProfileStore :=
  ⟨.memory [("ann", { Profile.new "ann" ⟨0, 0⟩ with typicalEmbeddings := vectors })], {}⟩

/-- Two profiles that differ in the order of their vectors and in one of another length. -/
theorem score_reports_largest_reorder :
    ∃ found, score {} (remembering [[1.0], [0.6, 0.8], [1.0, 0.0]]) loginOfAnn
        { EmbeddingFindings.fallback with vector := [1.0, 0.0] } = .value found ∧
      Compared {} [[0.6, 0.8], [1.0, 0.0]] { EmbeddingFindings.fallback with vector := [1.0, 0.0] } found ∧
      score {} (remembering [[1.0, 0.0], [0.6, 0.8]]) loginOfAnn
        { EmbeddingFindings.fallback with vector := [1.0, 0.0] } = .value found := by
  have hload : ∀ vectors, (remembering vectors).load loginOfAnn.profileKey =
      .ok (some { Profile.new "ann" ⟨0, 0⟩ with typicalEmbeddings := vectors }) := fun _ => rfl
  obtain ⟨found, hscore, hcompared, hother⟩ := score_reports_largest (s := {})
    (e := { EmbeddingFindings.fallback with vector := [1.0, 0.0] }) (hload [[1.0], [0.6, 0.8], [1.0, 0.0]])
  obtain ⟨found', hscore', hperm, -⟩ := hother _ _ (hload [[1.0, 0.0], [0.6, 0.8]])
  obtain rfl := hperm (.swap ..)
  exact ⟨found, hscore, hcompared, hscore'⟩

end LoginRisk.Embedding
