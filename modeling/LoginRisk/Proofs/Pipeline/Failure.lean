import LoginRisk.Proofs.Pipeline.Run

/-!
When the pipeline as a whole falls back: exactly when the weighted signals of a call leave the finite
numbers. Unit scores out of range are clamped before they count, and the fallback never gets into the
cache.
-/

namespace LoginRisk

namespace Assessment

/-- The answer of a pipeline that failed: no stage counts, the login passes and a person reviews it. -/
structure IsPipelineFailure (r : Assessment) : Prop where
  stages : r.reports.map StageReport.stage = Stage.all
  reports : ∀ report ∈ r.reports, report.fallback = some .pipelineFailure
  level : r.level = .low
  review : r.hasAction .manualReview = true

lemma fallback_isPipelineFailure (requestId : String) (score processingMs : Float) (now : Instant) :
    (fallback requestId score processingMs now).IsPipelineFailure where
  stages := (fallback_coherent requestId score processingMs now).stages
  reports := by simp [fallback]
  level := rfl
  review := by
    simp [fallback, hasAction, reviewAction, Action.make, Action.withParameter, Action.needsReview]

end Assessment

namespace Call

variable {σ : Type}

/-- No stage blames the pipeline, so that an assessment made from stages is no failure of it. -/
lemma computed_not_isPipelineFailure (settings : Settings) (c : Call σ) (p : Pipeline σ) :
    ¬(c.computed settings p).IsPipelineFailure := by
  intro h
  have hreported : (c.runs settings p).Reported := Pipeline.reported_runStages ..
  have hmem : (c.runs settings p).credential.report ∈ (c.computed settings p).reports := by
    simp [computed, Pipeline.assessed, StageRuns.reports]
  exact hreported.not_pipelineFailure _ hmem (h.reports _ hmem)

lemma reply_isPipelineFailure_iff {settings : Settings} {c : Call σ} {p : Pipeline σ}
    (h : ¬c.Served settings p) :
    (c.reply settings p).assessment.IsPipelineFailure ↔ c.Overflows settings p := by
  by_cases hoverflow : c.Overflows settings p
  · rw [(reply_of_overflows h hoverflow).1]
    exact ⟨fun _ => hoverflow, fun _ => Assessment.fallback_isPipelineFailure ..⟩
  · rw [(reply_of_not_overflows h hoverflow).1]
    exact ⟨fun hfailure => absurd hfailure (computed_not_isPipelineFailure settings c p),
      fun hfinite => absurd hfinite hoverflow⟩

end Call

namespace Pipeline

/-- The pipeline fails exactly when the clamped signals overflow, and then it caches nothing; where
they can be added up, the assessment passes validation. No run of calls caches or serves a failure. -/
theorem pipelineFailure_iff_overflows {σ : Type} (settings : Settings) :
    (∀ (c : Call σ) (p : Pipeline σ), ¬c.Served settings p →
      ((c.reply settings p).assessment.IsPipelineFailure ↔ c.Overflows settings p) ∧
      (c.Overflows settings p →
        (c.reply settings p).assessment = c.fallback settings ∧
        (c.reply settings p).pipeline.cache = (c.lookup settings p).1)) ∧
    (∀ (now : Instant) (elapsedMs : Float) (a : Attempt) (runs : StageRuns),
      signals settings runs.clamp = signals settings runs ∧
      assemble settings now elapsedMs a runs.clamp = assemble settings now elapsedMs a runs ∧
      ∀ score, aggregated settings runs = .ok score →
        ∃ r, assemble settings now elapsedMs a runs = .ok r ∧ r.isValid = true) ∧
    ∀ (s : σ) (events : List (PipelineEvent σ)), (∀ e ∈ events, e.isInsertion = false) →
      (∀ x ∈ (run settings (initial s) events).cache.entries, ¬x.2.assessment.IsPipelineFailure) ∧
      ∀ (c : Call σ) (r : Assessment),
        (c.lookup settings (run settings (initial s) events)).2 = .hit r → ¬r.IsPipelineFailure := by
  refine ⟨fun c p h => ⟨Call.reply_isPipelineFailure_iff h, fun hoverflow => ?_⟩,
    fun now elapsedMs a runs => ⟨signals_clamp settings runs,
      assemble_clamp settings now elapsedMs a runs, fun score hscore => ?_⟩, fun s events hevents => ?_⟩
  · obtain ⟨hanswer, hcache, -⟩ := Call.reply_of_overflows h hoverflow
    exact ⟨hanswer, hcache⟩
  · have hfinite := ((Decision.aggregate_eq_ok_iff ..).mp hscore).1
    obtain ⟨hok, hvalid⟩ := assemble_of_not_overflows now elapsedMs a hfinite
    exact ⟨_, hok, (Assessment.isValid_iff _).mpr hvalid⟩
  · have hcaches : (run settings (initial s) events).Caches fun r => ¬r.IsPipelineFailure :=
      caches_run (fun c q _ => c.computed_not_isPipelineFailure settings q) (caches_initial _ s) hevents
    exact ⟨hcaches, fun c r hr => hcaches.of_hit hr⟩

/-- Hostile analyzers make the pipeline fail by an infinite bias, and not by unit scores out of range. -/
theorem hostile_pipelineFailure :
    ¬(Call.hostile (1.0 / 0.0)).Served {} (initial ()) ∧
    ((Call.hostile (1.0 / 0.0)).reply {} (initial ())).assessment.IsPipelineFailure ∧
    ¬((Call.hostile 0.25).reply {} (initial ())).assessment.IsPipelineFailure := by
  have hserved (bias : Float) : ¬(Call.hostile bias).Served {} (initial ()) := by
    rintro ⟨r, hr⟩
    cases hr
  have hinfinite : (Call.hostile (1.0 / 0.0)).Overflows {} (initial ()) := by decide +kernel
  have hfinite : ¬(Call.hostile 0.25).Overflows {} (initial ()) := by decide +kernel
  obtain ⟨hiff, -, -⟩ := pipelineFailure_iff_overflows {} (σ := Unit)
  exact ⟨hserved _, ((hiff _ _ (hserved _)).1).mpr hinfinite,
    fun h => hfinite (((hiff _ _ (hserved _)).1).mp h)⟩

end Pipeline

end LoginRisk
