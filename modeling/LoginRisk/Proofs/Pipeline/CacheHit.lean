import LoginRisk.Proofs.Pipeline.Failure
import LoginRisk.Service.Run

/-!
A call that follows one of the same key at once. It gets the same answer from the cache, before any
analyzer starts, and leaves nothing behind but three counters and, for an answer that blocks, an event.
-/

namespace LoginRisk

namespace ResultCache

lemma get_of_front {s : CacheSettings} {clock : Nat} {c : ResultCache} {key : String} {e : CacheEntry}
    {rest : List (String × CacheEntry)} (henabled : s.enabled = true)
    (hfront : c.entries = (key, e) :: rest) (hdistinct : ∀ x ∈ rest, x.1 ≠ key)
    (hlive : isExpired s clock e = false) (hvalid : e.assessment.firstFault = none) :
    c.get s clock key = (c, .hit e.assessment) := by
  have hlookup : c.entries.lookup key = some e := by simp [hfront]
  have hrest : (c.remove key).entries = rest := by
    simpa [remove, hfront] using hdistinct
  rw [get_of_lookup henabled hlookup hlive hvalid, hrest, ← hfront]

end ResultCache

namespace Assessment

def BlocksSilently (r : Assessment) : Prop := r.shouldBlock = true → r.feedbackRequired = false

lemma BlocksSilently.events {r : Assessment} (h : r.BlocksSilently) (a : Attempt) (now : Instant) :
    (if r.shouldBlock then SecurityEvent.ofAssessment a r now else []) =
      if r.shouldBlock then
        [.loginBlocked r.requestId a.clientAddress.text (Text.toLower a.emailDomain) r.score
          r.threat.knownPatterns now]
      else [] := by
  split
  · rename_i hblock
    simp [SecurityEvent.ofAssessment, hblock, h hblock]
  · rfl

end Assessment

namespace Call

variable {σ : Type} {settings : Settings} {c d : Call σ} {p : Pipeline σ}

lemma computed_blocksSilently (settings : Settings) (c : Call σ) (p : Pipeline σ) :
    (c.computed settings p).BlocksSilently := by
  intro hblock
  have hlevel : RiskLevel.ofScore (Pipeline.score settings (c.runs settings p)) = .critical := by
    simpa [computed, Pipeline.assessed, Decision.decide] using hblock
  simp [computed, Pipeline.assessed, Decision.decide, Decision.needsFeedback, hlevel]

lemma front_of_reply (henabled : settings.cache.enabled = true)
    (hanswer : ¬(c.reply settings p).assessment.IsPipelineFailure) :
    ∃ e rest, (c.reply settings p).pipeline.cache.entries = (c.key settings, e) :: rest ∧
      (∀ x ∈ rest, x.1 ≠ c.key settings) ∧ e.assessment = (c.reply settings p).assessment ∧
      e.assessment.firstFault = none := by
  have hremoved (q : ResultCache) : ∀ x ∈ (q.remove (c.key settings)).entries, x.1 ≠ c.key settings :=
    fun x hx => by simpa using (List.mem_filter.mp hx).2
  rcases c.reply_cases settings p with ⟨r, hr, hreply, hcache⟩ | ⟨-, hfinite, hreply, hcache⟩ |
    ⟨-, -, hreply, -⟩
  · rcases ResultCache.get_cases settings.cache c.env.clock p.cache (c.key settings) with ⟨heq, -⟩ |
      ⟨e, -, -, ⟨-, heq⟩ | ⟨-, fault, -, heq⟩ | ⟨-, hvalid, heq⟩⟩ <;> rw [lookup, heq] at hr
    · cases hr
    · cases hr
    · cases hr
    · cases hr
      refine ⟨e, (p.cache.remove (c.key settings)).entries, ?_, hremoved _, hreply.symm, hvalid⟩
      rw [hcache, lookup, heq]
  · rw [hcache, hreply]
    obtain ⟨n, hn⟩ := ResultCache.entries_insert henabled c.env.clock (c.lookup settings p).1
      (c.key settings) (c.computed settings p)
    exact ⟨_, _, hn, fun x hx => hremoved _ x (List.mem_of_mem_take hx), rfl,
      (Assessment.firstFault_eq_none_iff _).mpr (computed_valid hfinite)⟩
  · rw [hreply] at hanswer
    exact absurd (Assessment.fallback_isPipelineFailure ..) hanswer

/-- An answer that is no failure blocks silently if all cached ones do. -/
lemma reply_blocksSilently (h : p.Caches Assessment.BlocksSilently)
    (hanswer : ¬(c.reply settings p).assessment.IsPipelineFailure) :
    (c.reply settings p).assessment.BlocksSilently := by
  rcases c.reply_cases settings p with ⟨r, hr, hreply, -⟩ | ⟨-, -, hreply, -⟩ | ⟨-, -, hreply, -⟩ <;>
    rw [hreply] at hanswer ⊢
  · exact h.of_hit hr
  · exact computed_blocksSilently settings c p
  · exact absurd (Assessment.fallback_isPipelineFailure ..) hanswer

/-- Whatever the analyzers are, a call whose answer was used last is answered before any of them
starts. -/
lemma begin_of_front {e : CacheEntry} {rest : List (String × CacheEntry)}
    (henabled : settings.cache.enabled = true) (hfront : p.cache.entries = (d.key settings, e) :: rest)
    (hdistinct : ∀ x ∈ rest, x.1 ≠ d.key settings)
    (hlive : ResultCache.isExpired settings.cache d.env.clock e = false)
    (hvalid : e.assessment.firstFault = none) (A : Analyzers σ) (profiles : ProfileStore) :
    p.begin settings A profiles d.env d.attempt =
      .answered
        { pipeline := { p with metrics := p.metrics.recordCacheHit }
          assessment := e.assessment
          events :=
            if e.assessment.shouldBlock then SecurityEvent.ofAssessment d.attempt e.assessment d.env.now
            else [] } := by
  have hget := ResultCache.get_of_front henabled hfront hdistinct hlive hvalid
  rw [key] at hget
  rw [Pipeline.begin, hget]

end Call

namespace Pipeline

/-- A call that follows one of the same key is answered alike, as long as that answer was no failure and
lives in the cache. It is answered before any analyzer starts. Nothing changes but three counters,
neither in the pipeline nor in the service around it, and the only event is that of a blocked login. -/
theorem repeated_call_is_served {σ : Type} (settings : Settings)
    (henabled : settings.cache.enabled = true) (s : σ) (events : List (PipelineEvent σ))
    (hevents : ∀ e ∈ events, e.isInsertion = false) (c d : Call σ) (hkey : d.key settings = c.key settings)
    (hanswer : ¬(c.reply settings (run settings (initial s) events)).assessment.IsPipelineFailure)
    (hlive : ∀ e, (d.key settings, e) ∈
      (c.reply settings (run settings (initial s) events)).pipeline.cache.entries →
        ResultCache.isExpired settings.cache d.env.clock e = false) :
    let first := c.reply settings (run settings (initial s) events)
    let second := d.reply settings first.pipeline
    second.assessment = first.assessment ∧
    second.pipeline =
      { first.pipeline with
        metrics :=
          { first.pipeline.metrics with
            total := first.pipeline.metrics.total + 1
            successful := first.pipeline.metrics.successful + 1
            cacheHits := first.pipeline.metrics.cacheHits + 1 } } ∧
    (∀ A profiles, first.pipeline.begin settings A profiles d.env d.attempt = .answered second) ∧
    second.events =
      (if first.assessment.shouldBlock then
        [.loginBlocked first.assessment.requestId d.attempt.clientAddress.text
          (Text.toLower d.attempt.emailDomain) first.assessment.score first.assessment.threat.knownPatterns
          d.env.now]
      else []) ∧
    ∀ service : Service σ, service.pipeline = first.pipeline →
      service.analyze settings d.analyzers d.env d.attempt =
        ({ service with pipeline := second.pipeline }, second) := by
  intro first second
  have hcaches : (run settings (initial s) events).Caches Assessment.BlocksSilently :=
    caches_run (fun c q _ => c.computed_blocksSilently settings q) (caches_initial _ s) hevents
  have hsilent : first.assessment.BlocksSilently := Call.reply_blocksSilently hcaches hanswer
  obtain ⟨e, rest, hfront, hdistinct, hassessment, hvalid⟩ := Call.front_of_reply henabled hanswer
  rw [← hkey] at hfront hdistinct
  have hbegin := Call.begin_of_front henabled hfront hdistinct (hlive e (by simp [hfront])) hvalid
  have hsecond : second =
      { pipeline := { first.pipeline with metrics := first.pipeline.metrics.recordCacheHit }
        assessment := e.assessment
        events :=
          if e.assessment.shouldBlock then SecurityEvent.ofAssessment d.attempt e.assessment d.env.now
          else [] } := by
    dsimp only [second, Call.reply, analyze]
    rw [hbegin]
  rw [hassessment] at hbegin hsecond
  refine ⟨by rw [hsecond], by rw [hsecond]; rfl, by rw [hsecond]; exact hbegin, ?_, ?_⟩
  · rw [hsecond]
    exact hsilent.events d.attempt d.env.now
  · intro service hservice
    rw [Service.analyze, hservice, hbegin, hsecond]

/-- A blocked login is blocked again, with one event, when it is repeated at once by other analyzers. -/
theorem blocked_login_is_blocked_again :
    let first := (Call.hostile 1.0).reply {} (initial ())
    let second := (Call.hostile 0.0).reply {} first.pipeline
    first.assessment.shouldBlock = true ∧ second.assessment = first.assessment ∧
    second.pipeline.metrics.cacheHits = 1 ∧ second.events.length = 1 := by
  intro first second
  have hserved : ¬(Call.hostile 1.0).Served {} (initial ()) := by
    rintro ⟨r, hr⟩
    cases hr
  have hfinite : ¬(Call.hostile 1.0).Overflows {} (initial ()) := by decide +kernel
  have hanswer : ¬first.assessment.IsPipelineFailure :=
    fun h => hfinite ((Call.reply_isPipelineFailure_iff hserved).mp h)
  have hblock : first.assessment.shouldBlock = true := by decide +kernel
  have hhits : first.pipeline.metrics.cacheHits = 0 := by decide +kernel
  have hrepeated := repeated_call_is_served {} rfl () [] (by simp) (Call.hostile 1.0) (Call.hostile 0.0) rfl
    hanswer fun e _ => by simp [ResultCache.isExpired, Call.hostile]
  rw [run_nil] at hrepeated
  obtain ⟨hassessment, hpipeline, -, hevents, -⟩ := hrepeated
  refine ⟨hblock, hassessment, ?_, ?_⟩
  · dsimp only [second, first] at hhits ⊢
    rw [hpipeline, hhits]
  · dsimp only [second, first] at hblock ⊢
    rw [hevents, if_pos hblock]
    rfl

end Pipeline

end LoginRisk
