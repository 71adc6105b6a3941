import LoginRisk.Proofs.Pipeline.Run
import Mathlib.Data.List.Induction

/-!
Which calls of a run are served from the cache. What is served was answered to an earlier call of the
same key; while an entry lives, every call of its key is served.
-/

namespace LoginRisk.Pipeline

variable {σ : Type} {settings : Settings} {p : Pipeline σ}

def runCalls (settings : Settings) (p : Pipeline σ) (calls : List (Call σ)) : Pipeline σ :=
  run settings p (calls.map .call)

/-- The calls of a run whose stages ran, the others being served from the cache. -/
def computedCalls (settings : Settings) (p : Pipeline σ) : List (Call σ) → List (Call σ)
  | [] => []
  | c :: rest =>
    (if c.Served settings p then [] else [c]) ++
      computedCalls settings (c.reply settings p).pipeline rest

lemma runCalls_append_singleton (calls : List (Call σ)) (c : Call σ) :
    runCalls settings p (calls ++ [c]) = (c.reply settings (runCalls settings p calls)).pipeline := by
  rw [runCalls, List.map_append, run_append]
  rfl

lemma answers_append_singleton (calls : List (Call σ)) (c : Call σ) :
    answers settings p ((calls ++ [c]).map .call) =
      answers settings p (calls.map .call) ++ [(c.reply settings (runCalls settings p calls)).assessment] := by
  rw [List.map_append, answers_append]
  rfl

lemma computedCalls_append_singleton (calls : List (Call σ)) (c : Call σ) :
    computedCalls settings p (calls ++ [c]) = computedCalls settings p calls ++
      if c.Served settings (runCalls settings p calls) then [] else [c] := by
  induction calls generalizing p with
  | nil => simp [computedCalls, runCalls]
  | cons d rest ih =>
    rw [List.cons_append, computedCalls, ih, computedCalls, List.append_assoc]
    rfl

lemma mem_of_mem_computedCalls {calls : List (Call σ)} {c : Call σ}
    (h : c ∈ computedCalls settings p calls) : c ∈ calls := by
  induction calls generalizing p with
  | nil => exact h
  | cons d rest ih =>
    rw [computedCalls] at h
    rcases List.mem_append.mp h with h | h
    · split at h
      · cases h
      · rw [List.mem_singleton.mp h]
        exact List.mem_cons_self
    · exact List.mem_cons_of_mem d (ih h)

/-- A cached assessment is the answer to an earlier call of the same key whose stages ran. -/
lemma cached_of_runCalls (s : σ) (calls : List (Call σ)) :
    ∀ x ∈ (runCalls settings (initial s) calls).cache.entries,
      ∃ before d after, calls = before ++ d :: after ∧
        ¬d.Served settings (runCalls settings (initial s) before) ∧ d.key settings = x.1 ∧
        (d.reply settings (runCalls settings (initial s) before)).assessment = x.2.assessment := by
  induction calls using List.reverseRecOn with
  | nil =>
    intro x hx
    cases hx
  | append_singleton calls c ih =>
    intro x hx
    have hearlier (hx : x ∈ (c.lookup settings (runCalls settings (initial s) calls)).1.entries) :
        ∃ before d after, calls ++ [c] = before ++ d :: after ∧
          ¬d.Served settings (runCalls settings (initial s) before) ∧ d.key settings = x.1 ∧
          (d.reply settings (runCalls settings (initial s) before)).assessment = x.2.assessment := by
      obtain ⟨before, d, after, rfl, hd⟩ := ih x (ResultCache.mem_of_mem_get hx)
      exact ⟨before, d, after ++ [c], by simp, hd⟩
    rw [runCalls_append_singleton] at hx
    rcases c.reply_cases settings (runCalls settings (initial s) calls) with
      ⟨r, -, -, hcache⟩ | ⟨hserved, -, hanswer, hcache⟩ | ⟨-, -, -, hcache⟩ <;> rw [hcache] at hx
    · exact hearlier hx
    · rcases ResultCache.mem_of_mem_insert hx with rfl | hx
      · exact ⟨calls, c, [], rfl, hserved, rfl, hanswer⟩
      · exact hearlier hx
    · exact hearlier hx

lemma exists_earlier_of_served (s : σ) {calls : List (Call σ)} {c : Call σ}
    (h : c.Served settings (runCalls settings (initial s) calls)) :
    ∃ before d after, calls = before ++ d :: after ∧ d.key settings = c.key settings ∧
      ¬d.Served settings (runCalls settings (initial s) before) ∧
      (c.reply settings (runCalls settings (initial s) calls)).assessment =
        (d.reply settings (runCalls settings (initial s) before)).assessment := by
  obtain ⟨r, hr⟩ := h
  obtain ⟨-, e, he, rfl⟩ := ResultCache.get_hit hr
  obtain ⟨before, d, after, hcalls, hserved, hkey, hanswer⟩ := cached_of_runCalls s calls _ he
  exact ⟨before, d, after, hcalls, hkey, hserved, (Call.reply_of_hit hr).1.trans hanswer.symm⟩

lemma not_served_of_distinct_keys (s : σ) {calls : List (Call σ)} {c : Call σ}
    (h : (calls ++ [c]).Pairwise fun c d => c.key settings ≠ d.key settings) :
    ¬c.Served settings (runCalls settings (initial s) calls) := by
  intro hserved
  obtain ⟨before, d, after, rfl, hkey, -⟩ := exists_earlier_of_served s hserved
  exact (List.pairwise_append.mp h).2.2 d (by simp) c (by simp) hkey

lemma computedCalls_of_distinct_keys (s : σ) {calls : List (Call σ)}
    (h : calls.Pairwise fun c d => c.key settings ≠ d.key settings) :
    computedCalls settings (initial s) calls = calls := by
  induction calls using List.reverseRecOn with
  | nil => rfl
  | append_singleton calls c ih =>
    rw [computedCalls_append_singleton, ih (List.pairwise_append.mp h).1,
      if_neg (not_served_of_distinct_keys s h)]

/-- While an entry lives, all calls of its key are answered from it, and none of them is computed. -/
lemma answers_of_cached {e : CacheEntry} {key : String} (henabled : settings.cache.enabled = true)
    (hvalid : e.assessment.firstFault = none) {calls : List (Call σ)}
    (hcalls : ∀ d ∈ calls, d.key settings = key ∧
      ResultCache.isExpired settings.cache d.env.clock e = false)
    (h : p.cache.entries.lookup key = some e) :
    answers settings p (calls.map .call) = List.replicate calls.length e.assessment ∧
    computedCalls settings p calls = [] := by
  induction calls generalizing p with
  | nil => exact ⟨rfl, rfl⟩
  | cons d rest ih =>
    obtain ⟨hkey, hlive⟩ := hcalls d List.mem_cons_self
    have hget := ResultCache.get_of_lookup henabled h hlive hvalid
    rw [← hkey] at hget
    have hhit : (d.lookup settings p).2 = .hit e.assessment := by rw [Call.lookup, hget]
    obtain ⟨hanswer, hcache, -⟩ := Call.reply_of_hit hhit
    have hnext : (d.reply settings p).pipeline.cache.entries.lookup key = some e := by
      rw [hcache, Call.lookup, hget, hkey]
      simp
    obtain ⟨hanswers, hcomputed⟩ := ih (fun d' hd' => hcalls d' (List.mem_cons_of_mem d hd')) hnext
    constructor
    · rw [List.map_cons, answers, step, hanswer, hanswers]
      rfl
    · rw [computedCalls, if_pos ⟨_, hhit⟩, hcomputed]
      rfl

/-- Calls of one key within the lifetime of an entry all get the answer that the first of them gets. -/
theorem answers_of_one_key {c : Call σ} {calls : List (Call σ)}
    (henabled : settings.cache.enabled = true) (hserved : ¬c.Served settings p)
    (hfinite : ¬c.Overflows settings p)
    (hcalls : ∀ d ∈ calls, d.key settings = c.key settings ∧
      d.env.clock - c.env.clock < settings.cache.ttlSeconds * 1000) :
    answers settings p ((c :: calls).map .call) =
      List.replicate (calls.length + 1) (c.computed settings p) ∧
    computedCalls settings p (c :: calls) = [c] := by
  obtain ⟨hanswer, hcache, -⟩ := Call.reply_of_not_overflows hserved hfinite
  have hvalid := (Assessment.firstFault_eq_none_iff _).mpr (Call.computed_valid hfinite)
  generalize c.computed settings p = r at hanswer hcache hvalid ⊢
  have hentry : (c.reply settings p).pipeline.cache.entries.lookup (c.key settings) =
      some ⟨r, c.env.clock⟩ := by
    rw [hcache]
    exact ResultCache.lookup_insert henabled
  have hlive : ∀ d ∈ calls, d.key settings = c.key settings ∧
      ResultCache.isExpired settings.cache d.env.clock ⟨r, c.env.clock⟩ = false := by
    intro d hd
    obtain ⟨hkey, hclock⟩ := hcalls d hd
    exact ⟨hkey, by simpa [ResultCache.isExpired] using hclock⟩
  obtain ⟨hanswers, hcomputed⟩ := answers_of_cached (e := ⟨r, c.env.clock⟩) henabled hvalid hlive hentry
  constructor
  · rw [List.map_cons, answers, step, hanswer, hanswers, List.replicate_succ]
  · rw [computedCalls, if_neg hserved, hcomputed]
    rfl

end LoginRisk.Pipeline
