import LoginRisk.Proofs.Pipeline.Run

/-!
Every call is answered by an assessment that keeps the rules, whatever is configured, whatever the
analyzers do and whatever others put into the cache. As long as nobody else writes to the cache, flags,
actions and reports of every answer agree with one another.
-/

namespace LoginRisk

namespace Call

variable {σ : Type}

lemma reply_valid (settings : Settings) (c : Call σ) (p : Pipeline σ) :
    (c.reply settings p).assessment.Valid := by
  rcases c.reply_cases settings p with ⟨r, hr, hanswer, -⟩ | ⟨-, hfinite, hanswer, -⟩ |
    ⟨-, -, hanswer, -⟩ <;> rw [hanswer]
  · exact (Assessment.firstFault_eq_none_iff r).mp (ResultCache.get_hit hr).1
  · exact computed_valid hfinite
  · exact Assessment.fallback_valid ..

lemma reply_coherent (settings : Settings) (c : Call σ) {p : Pipeline σ}
    (h : p.Caches Assessment.Coherent) : (c.reply settings p).assessment.Coherent := by
  rcases c.reply_cases settings p with ⟨r, hr, hanswer, -⟩ | ⟨-, -, hanswer, -⟩ |
    ⟨-, -, hanswer, -⟩ <;> rw [hanswer]
  · exact h.of_hit hr
  · exact computed_coherent settings c p
  · exact Assessment.fallback_coherent ..

end Call

namespace Pipeline

/-- Every call is answered, from any cache by an assessment that passes validation, and from a cache
that only calls have filled by a coherent one. -/
theorem answers_valid_and_coherent {σ : Type} (settings : Settings) :
    (∀ (p : Pipeline σ) (events : List (PipelineEvent σ)),
      (answers settings p events).length = events.countP PipelineEvent.isCall ∧
      ∀ r ∈ answers settings p events, r.isValid = true) ∧
    ∀ (s : σ) (events : List (PipelineEvent σ)), (∀ e ∈ events, e.isInsertion = false) →
      ∀ r ∈ answers settings (initial s) events, r.Coherent := by
  refine ⟨fun p events => ⟨length_answers events, fun r hr => ?_⟩, fun s events hevents r hr => ?_⟩
  · obtain ⟨before, c, after, -, rfl⟩ := mem_answers hr
    exact (Assessment.isValid_iff _).mpr (c.reply_valid settings _)
  · obtain ⟨before, c, after, rfl, rfl⟩ := mem_answers hr
    refine c.reply_coherent settings (caches_run (fun c q _ => c.computed_coherent settings q)
      (caches_initial _ s) fun e he => hevents e ?_)
    simp [he]

/-- Two calls to hostile analyzers are answered, by valid and coherent assessments. -/
theorem hostile_answers_valid_and_coherent :
    (∀ e ∈ [PipelineEvent.call (Call.hostile 0.0), .call (Call.hostile 0.0)], e.isInsertion = false) ∧
    (answers {} (initial ()) [.call (Call.hostile 0.0), .call (Call.hostile 0.0)]).length = 2 ∧
    ∀ r ∈ answers {} (initial ()) [.call (Call.hostile 0.0), .call (Call.hostile 0.0)],
      r.isValid = true ∧ r.Coherent := by
  have hevents : ∀ e ∈ [PipelineEvent.call (Call.hostile 0.0), .call (Call.hostile 0.0)],
      e.isInsertion = false := by
    simp [PipelineEvent.isInsertion]
  obtain ⟨hvalid, hcoherent⟩ := answers_valid_and_coherent {} (σ := Unit)
  exact ⟨hevents, (hvalid _ _).1, fun r hr => ⟨(hvalid _ _).2 r hr, hcoherent _ _ hevents r hr⟩⟩

end Pipeline

end LoginRisk
