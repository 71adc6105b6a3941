import LoginRisk.Proofs.Pipeline.Call

/-!
Runs of a pipeline. Calls, clean-ups and insertions by others follow one another in any order; what a
call leaves in the cache is kept by every run without insertions by others.
-/

namespace LoginRisk

inductive PipelineEvent (σ : Type) where
  | call (c : Call σ)
  | cleanup (analyzers : Analyzers σ) (env : Surroundings)
  /-- Somebody else puts an assessment into the cache. -/
  | insertion (clock : Nat) (key : String) (r : Assessment)

namespace PipelineEvent

def isInsertion {σ : Type} : PipelineEvent σ → Bool
  | .insertion .. => true
  | _ => false

def isCall {σ : Type} : PipelineEvent σ → Bool
  | .call _ => true
  | _ => false

end PipelineEvent

namespace Pipeline

variable {σ : Type}

def step (settings : Settings) (p : Pipeline σ) : PipelineEvent σ → Pipeline σ
  | .call c => (c.reply settings p).pipeline
  | .cleanup analyzers env => (p.cleanup settings analyzers env).1
  | .insertion clock key r => { p with cache := p.cache.insert settings.cache clock key r }

def run (settings : Settings) (p : Pipeline σ) (events : List (PipelineEvent σ)) : Pipeline σ :=
  events.foldl (step settings) p

def answers (settings : Settings) (p : Pipeline σ) : List (PipelineEvent σ) → List Assessment
  | [] => []
  | .call c :: rest => (c.reply settings p).assessment :: answers settings (p.step settings (.call c)) rest
  | e :: rest => answers settings (p.step settings e) rest

variable {settings : Settings} {p : Pipeline σ}

@[simp] lemma run_nil : run settings p [] = p :=
  rfl

@[simp] lemma run_cons (e : PipelineEvent σ) (events : List (PipelineEvent σ)) :
    run settings p (e :: events) = run settings (p.step settings e) events :=
  rfl

lemma run_append (before after : List (PipelineEvent σ)) :
    run settings p (before ++ after) = run settings (run settings p before) after :=
  List.foldl_append

lemma answers_append (before after : List (PipelineEvent σ)) :
    answers settings p (before ++ after) =
      answers settings p before ++ answers settings (run settings p before) after := by
  induction before generalizing p with
  | nil => rfl
  | cons e rest ih => cases e <;> simp [answers, ih]

lemma length_answers (events : List (PipelineEvent σ)) :
    (answers settings p events).length = events.countP PipelineEvent.isCall := by
  induction events generalizing p with
  | nil => rfl
  | cons e rest ih => cases e <;> simp [answers, ih, PipelineEvent.isCall, List.countP_cons]

lemma mem_answers {r : Assessment} {events : List (PipelineEvent σ)}
    (h : r ∈ answers settings p events) :
    ∃ before c after, events = before ++ .call c :: after ∧
      r = (c.reply settings (run settings p before)).assessment := by
  induction events generalizing p with
  | nil => cases h
  | cons e rest ih =>
    have hlater {q : Pipeline σ} (hq : q = p.step settings e) (h : r ∈ answers settings q rest) :
        ∃ before c after, e :: rest = before ++ .call c :: after ∧
          r = (c.reply settings (run settings p before)).assessment := by
      obtain ⟨before, c, after, rfl, hr⟩ := ih h
      exact ⟨e :: before, c, after, rfl, by rw [hr, run_cons, hq]⟩
    cases e with
    | call c =>
      rcases List.mem_cons.mp h with rfl | h
      · exact ⟨[], c, rest, rfl, rfl⟩
      · exact hlater rfl h
    | cleanup analyzers env => exact hlater rfl h
    | insertion clock key cached => exact hlater rfl h

def Caches (P : Assessment → Prop) (p : Pipeline σ) : Prop :=
  ∀ x ∈ p.cache.entries, P x.2.assessment

lemma caches_initial (P : Assessment → Prop) (s : σ) : (initial s).Caches P := by
  intro x hx
  cases hx

lemma caches_lookup {P : Assessment → Prop} (h : p.Caches P) (c : Call σ) :
    ∀ x ∈ (c.lookup settings p).1.entries, P x.2.assessment :=
  fun x hx => h x (ResultCache.mem_of_mem_get hx)

lemma Caches.of_hit {P : Assessment → Prop} (h : p.Caches P) {c : Call σ} {r : Assessment}
    (hr : (c.lookup settings p).2 = .hit r) : P r := by
  obtain ⟨-, e, he, rfl⟩ := ResultCache.get_hit hr
  exact h _ he

lemma cache_cleanup_subset (analyzers : Analyzers σ) (env : Surroundings) :
    ∀ x ∈ (p.cleanup settings analyzers env).1.cache.entries, x ∈ p.cache.entries := by
  intro x hx
  unfold cleanup at hx
  dsimp only at hx
  split at hx
  · exact hx
  · exact ResultCache.mem_of_mem_purge hx

/-- A step other than an insertion caches no more than an assessment made from finite signals. -/
lemma caches_step {P : Assessment → Prop}
    (hP : ∀ (c : Call σ) (q : Pipeline σ), ¬c.Overflows settings q → P (c.computed settings q))
    (h : p.Caches P) {e : PipelineEvent σ} (he : e.isInsertion = false) :
    (p.step settings e).Caches P := by
  cases e with
  | call c =>
    intro x hx
    simp only [step] at hx
    rcases c.reply_cases settings p with ⟨r, -, -, hcache⟩ | ⟨-, hfinite, -, hcache⟩ | ⟨-, -, -, hcache⟩ <;>
      rw [hcache] at hx
    · exact caches_lookup h c x hx
    · rcases ResultCache.mem_of_mem_insert hx with rfl | hx
      · exact hP c p hfinite
      · exact caches_lookup h c x hx
    · exact caches_lookup h c x hx
  | cleanup analyzers env =>
    intro x hx
    exact h x (cache_cleanup_subset analyzers env x hx)
  | insertion clock key r => cases he

lemma caches_run {P : Assessment → Prop}
    (hP : ∀ (c : Call σ) (q : Pipeline σ), ¬c.Overflows settings q → P (c.computed settings q))
    {events : List (PipelineEvent σ)} (h : p.Caches P)
    (hevents : ∀ e ∈ events, e.isInsertion = false) : (run settings p events).Caches P := by
  induction events generalizing p with
  | nil => exact h
  | cons e rest ih =>
    rw [run_cons]
    exact ih (caches_step hP h (hevents e (by simp))) fun e' he' => hevents e' (by simp [he'])

end Pipeline

end LoginRisk
