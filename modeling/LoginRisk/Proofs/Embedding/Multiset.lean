import LoginRisk.Embedding.Analyze
import LoginRisk.Proofs.Number.Count

/-!
The order of words does not matter: below 2 ^ 24 words every sum is the 32-bit form of a whole number, so the
vector is a function of how often each word occurs.
-/

namespace LoginRisk.Embedding

open Number

def weight (dimension i : ℕ) (token : String) : ℤ :=
  if (bucket dimension token).1 = i then if (bucket dimension token).2 then -1 else 1 else 0

def balance (dimension : ℕ) (tokens : List String) (i : ℕ) : ℤ := (tokens.map (weight dimension i)).sum

variable {dimension i : ℕ} {l l' : List String}

lemma natAbs_weight_le (dimension i : ℕ) (token : String) : (weight dimension i token).natAbs ≤ 1 := by
  unfold weight
  split_ifs <;> decide

lemma balance_concat (token : String) :
    balance dimension (l ++ [token]) i = balance dimension l i + weight dimension i token := by
  simp [balance]

lemma natAbs_balance_le (dimension : ℕ) (l : List String) (i : ℕ) : (balance dimension l i).natAbs ≤ l.length := by
  induction l using List.reverseRecOn with
  | nil => simp [balance]
  | append_singleton l token ih =>
    have hweight := natAbs_weight_le dimension i token
    rw [balance_concat, List.length_append, List.length_singleton]
    omega

lemma balance_eq_of_perm (h : l.Perm l') : balance dimension l = balance dimension l' :=
  funext fun _ => (h.map _).sum_eq

@[simp] lemma size_accumulate (v : Array Float32) (token : String) : (accumulate v token).size = v.size :=
  Array.size_modify

@[simp] lemma size_sums : (sums dimension l).size = max dimension 1 := by
  induction l using List.reverseRecOn with
  | nil => simp [sums]
  | append_singleton l token ih => simpa [sums] using ih

lemma sums_concat (token : String) :
    sums dimension (l ++ [token]) = accumulate (sums dimension l) token := by
  simp [sums]

lemma getElem?_accumulate {v : Array Float32} {n : ℤ} (token : String) (hv : v[i]? = some (whole n))
    (hn : n.natAbs + 1 < 2 ^ 24) : (accumulate v token)[i]? = some (whole (n + weight v.size i token)) := by
  have hweight := natAbs_weight_le v.size i token
  have hsum := whole_add_whole (m := n) (n := weight v.size i token) (by omega) (by omega) (by omega)
  rw [accumulate, Array.getElem?_modify, hv]
  by_cases hi : (bucket v.size token).1 = i
  · have hsign : whole (weight v.size i token) = if (bucket v.size token).2 then -1.0 else 1.0 := by
      rw [weight, if_pos hi, apply_ite whole, whole_neg_one, whole_one]
    rw [if_pos hi, ← hsum, hsign]
    rfl
  · rw [if_neg hi, weight, if_neg hi, add_zero]

lemma getElem?_sums (h : l.length < 2 ^ 24) (hi : i < max dimension 1) :
    (sums dimension l)[i]? = some (whole (balance (max dimension 1) l i)) := by
  induction l using List.reverseRecOn with
  | nil => simp [sums, balance, hi, whole_zero]
  | append_singleton l token ih =>
    rw [List.length_append, List.length_singleton] at h
    have hbalance := natAbs_balance_le (max dimension 1) l i
    rw [sums_concat, getElem?_accumulate token (ih (by omega)) (by omega), size_sums, balance_concat]

lemma sums_eq_of_perm (h : l.Perm l') (hlength : l.length < 2 ^ 24) :
    sums dimension l = sums dimension l' := by
  refine Array.ext (by simp) fun i hi hi' => Option.some_injective _ ?_
  rw [size_sums] at hi
  rw [← Array.getElem?_eq_getElem, ← Array.getElem?_eq_getElem, getElem?_sums hlength hi,
    getElem?_sums (h.length_eq ▸ hlength) hi, balance_eq_of_perm h]

lemma length_tokens_le (a : Attempt) : (tokens a).length ≤ 14 := by
  have htime : (timeTokens a.timestamp).length ≤ 4 := by
    simp only [timeTokens, List.length_append]
    split_ifs <;> simp
  have hplace : (placeTokens a.place).length ≤ 2 := by
    cases a.place with
    | none => simp [placeTokens]
    | some p => cases h : p.timezone <;> simp [placeTokens, h]
  simp only [tokens, List.length_append, List.length_cons, List.length_nil]
  split_ifs <;> simp <;> omega

/-- The vector of a list of words, and with it the findings about an attempt, is the same in every order of the
words. -/
theorem embedding_of_multiset :
    (∀ dimension tokens tokens', tokens.Perm tokens' → tokens.length < 2 ^ 24 →
      hashed dimension tokens = hashed dimension tokens') ∧
    ∀ s a a', (tokens a).Perm (tokens a') → embed s a = embed s a' := by
  have hhashed : ∀ dimension tokens tokens', tokens.Perm tokens' → tokens.length < 2 ^ 24 →
      hashed dimension tokens = hashed dimension tokens' := by
    intro dimension tokens tokens' h hlength
    rw [hashed, hashed, sums_eq_of_perm h hlength]
  refine ⟨hhashed, fun s a a' h => ?_⟩
  have hlength := length_tokens_le a
  rw [embed, embed, hhashed s.dimension _ _ h (by omega)]

def attemptAfter (failures : ℕ) : Attempt where
  email := "ann@example.org"
  credentialDigest := ""
  clientAddress := .v4 0
  userAgent := "curl/8.0"
  timestamp := ⟨0, 0⟩
  requestId := ""
  previousFailures := failures

/-- A word that occurs twice, and two attempts in the same words. -/
theorem embedding_of_multiset_repeated :
    hashed 2 ["tor_exit", "night_time", "tor_exit"] = hashed 2 ["tor_exit", "tor_exit", "night_time"] ∧
    embed {} (attemptAfter 3) = embed {} (attemptAfter 4) := by
  have hperm : ["tor_exit", "night_time", "tor_exit"].Perm ["tor_exit", "tor_exit", "night_time"] := by decide
  have htokens : (tokens (attemptAfter 3)).Perm (tokens (attemptAfter 4)) := .refl _
  exact ⟨embedding_of_multiset.1 2 _ _ hperm (by decide), embedding_of_multiset.2 _ _ _ htokens⟩

end LoginRisk.Embedding
