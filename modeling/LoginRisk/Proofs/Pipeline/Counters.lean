import LoginRisk.Proofs.Monitor.Metrics
import LoginRisk.Proofs.Pipeline.Failure
import LoginRisk.Proofs.Pipeline.Isolation

/-!
What has been counted after a run. Requests are counted by how they were answered, the runs of a stage by what
became of it, and the error history holds the last errors of all calls, those of one call in the order in which
they came up.
-/

namespace LoginRisk

instance (r : Assessment) : Decidable r.IsPipelineFailure :=
  decidable_of_iff (r.reports.map StageReport.stage = Stage.all ∧
      (∀ report ∈ r.reports, report.fallback = some .pipelineFailure) ∧
      r.level = .low ∧ r.hasAction .manualReview = true)
    ⟨fun ⟨stages, reports, level, review⟩ => ⟨stages, reports, level, review⟩,
      fun h => ⟨h.stages, h.reports, h.level, h.review⟩⟩

namespace Call

variable {σ : Type}

/-- A call that is not answered from the cache ends in the fallback of the whole pipeline. -/
def Fails (settings : Settings) (c : Call σ) (p : Pipeline σ) : Prop :=
  ¬c.Served settings p ∧ (c.reply settings p).assessment.IsPipelineFailure

instance (settings : Settings) (c : Call σ) (p : Pipeline σ) : Decidable (c.Fails settings p) :=
  inferInstanceAs (Decidable (_ ∧ _))

def Invokes (settings : Settings) (c : Call σ) (p : Pipeline σ) (stage : Stage) : Prop :=
  ¬c.Served settings p ∧ settings.service.enables stage = true

instance (settings : Settings) (c : Call σ) (p : Pipeline σ) (stage : Stage) :
    Decidable (c.Invokes settings p stage) :=
  inferInstanceAs (Decidable (_ ∧ _))

def reason? (settings : Settings) (c : Call σ) (p : Pipeline σ) (stage : Stage) : Option FallbackReason :=
  ((c.runs settings p).run stage).outcome.reason

/-- The error of a stage that failed, panicked or ran out of time. -/
def stageError? (settings : Settings) (c : Call σ) (p : Pipeline σ) (stage : Stage) :
    Option PipelineError :=
  match ((c.runs settings p).run stage).outcome with
  | .fallback _ (.timeout budgetMs) => some (.componentTimeout stage budgetMs)
  | .fallback _ (.failure message) => some (.componentFailure stage message)
  | .fallback _ .panicked => some (.componentFailure stage "analyzer panicked")
  | _ => none

/-- The errors of a call whose stages run: those of the stages in their order, and then that of the sum of
their signals. -/
def stageErrors (settings : Settings) (c : Call σ) (p : Pipeline σ) : List PipelineError :=
  Stage.all.filterMap (c.stageError? settings p) ++
    match Pipeline.aggregated settings (c.runs settings p) with
    | .error e => [.aggregation e.message]
    | .ok _ => []

/-- The errors of a call in their order: first that of a cached entry which broke a rule. -/
def errors (settings : Settings) (c : Call σ) (p : Pipeline σ) : List PipelineError :=
  match (c.lookup settings p).2 with
  | .hit _ => []
  | .miss => c.stageErrors settings p
  | .corrupted fault => .cacheCorruption fault.message :: c.stageErrors settings p

def record (c : Call σ) (e : PipelineError) : ErrorRecord := ⟨c.env.now, e, some c.attempt.requestId⟩

end Call

namespace Pipeline

variable {σ : Type}

/-- The calls of a run, each with the pipeline as the call finds it. -/
def visits (settings : Settings) (p : Pipeline σ) : List (PipelineEvent σ) → List (Call σ × Pipeline σ)
  | [] => []
  | .call c :: rest => (c, p) :: visits settings (p.step settings (.call c)) rest
  | e :: rest => visits settings (p.step settings e) rest

section Observe

variable {settings : Settings} {now : Instant} {requestId : String} {p : Pipeline σ}

lemma metrics_observe (report : StageReport) (error : Option PipelineError) :
    (p.observe settings now requestId report error).metrics =
      error.elim (p.metrics.recordStage report) fun e =>
        (p.metrics.recordStage report).recordError settings.metrics e (some requestId) now := by
  cases error <;> rfl

lemma requests_observe (report : StageReport) (error : Option PipelineError) :
    (p.observe settings now requestId report error).metrics.requests = p.metrics.requests := by
  rw [metrics_observe, ← Metrics.requests_recordStage p.metrics report]
  cases error <;> rfl

lemma stages_observe (report : StageReport) (error : Option PipelineError) (stage : Stage) :
    (p.observe settings now requestId report error).metrics.stages.get stage =
      if report.stage = stage then
        if report.fallback = some .disabled then p.metrics.stages.get stage
        else Metrics.countRun report (p.metrics.stages.get stage)
      else p.metrics.stages.get stage := by
  rw [metrics_observe, ← Metrics.stages_recordStage]
  cases error <;> rfl

lemma errors_observe {known : List ErrorRecord} (report : StageReport) (error : Option PipelineError)
    (h : p.metrics.errors = known.rtake (max settings.metrics.errorHistorySize 1)) :
    (p.observe settings now requestId report error).metrics.errors =
      (known ++ error.toList.map fun e => ErrorRecord.mk now e (some requestId)).rtake
        (max settings.metrics.errorHistorySize 1) := by
  rw [← Metrics.errors_recordStage p.metrics report] at h
  rw [metrics_observe]
  cases error with
  | none => simpa using h
  | some e => exact Metrics.errors_recordError h e (some requestId) now

lemma observeAll_eq (p : Pipeline σ) (runs : StageRuns) :
    observeAll settings now requestId p runs =
      Stage.all.foldl (fun p stage => p.observe settings now requestId (runs.run stage).report
        (PipelineError.ofRun? (runs.run stage))) p :=
  rfl

lemma requests_observeAll (runs : StageRuns) :
    (observeAll settings now requestId p runs).metrics.requests = p.metrics.requests := by
  simp [observeAll_eq, Stage.all, requests_observe]

lemma stages_observeAll {runs : StageRuns} (h : ∀ stage, (runs.run stage).Reported stage) (stage : Stage) :
    (observeAll settings now requestId p runs).metrics.stages.get stage =
      if (runs.run stage).report.fallback = some .disabled then p.metrics.stages.get stage
      else Metrics.countRun (runs.run stage).report (p.metrics.stages.get stage) := by
  have hstage (stage : Stage) : (runs.run stage).report.stage = stage := (h stage).stage
  rw [observeAll_eq]
  cases stage <;> simp [Stage.all, stages_observe, hstage]

lemma errors_observeAll {known : List ErrorRecord} (runs : StageRuns)
    (h : p.metrics.errors = known.rtake (max settings.metrics.errorHistorySize 1)) :
    (observeAll settings now requestId p runs).metrics.errors =
      (known ++ (Stage.all.filterMap fun stage => PipelineError.ofRun? (runs.run stage)).map fun e =>
        ErrorRecord.mk now e (some requestId)).rtake (max settings.metrics.errorHistorySize 1) := by
  rw [observeAll_eq]
  generalize Stage.all = stages
  induction stages generalizing p known with
  | nil => simpa using h
  | cons stage stages ih =>
    rw [List.foldl_cons, ih (errors_observe _ _ h), List.append_assoc]
    cases herror : PipelineError.ofRun? (runs.run stage) <;> simp [herror]

lemma metrics_conclude (env : Surroundings) (a : Attempt) (key : String) (runs : StageRuns) :
    (p.conclude settings env a key runs).pipeline.metrics =
      match aggregated settings runs with
      | .ok _ => (observeAll settings env.now a.requestId p runs).metrics.recordRequest settings.metrics
          env.elapsedMs true
      | .error e => ((observeAll settings env.now a.requestId p runs).metrics.recordError settings.metrics
          (.aggregation e.message) (some a.requestId) env.now).recordRequest settings.metrics
          env.elapsedMs false := by
  cases haggregated : aggregated settings runs with
  | ok x =>
    have hfinite := ((Decision.aggregate_eq_ok_iff ..).mp haggregated).1
    have hassemble := (assemble_of_not_overflows env.now env.elapsedMs a hfinite).1
    simp only [conclude, hassemble]
    rfl
  | error e =>
    have hassemble : assemble settings env.now env.elapsedMs a runs = .error (.aggregation e.message) := by
      rw [assemble_eq, haggregated]
    simp only [conclude, hassemble]
    rfl

lemma requests_conclude (env : Surroundings) (a : Attempt) (key : String) (runs : StageRuns) :
    (p.conclude settings env a key runs).pipeline.metrics.requests =
      { total := p.metrics.total + 1
        successful := p.metrics.successful + if Decision.Overflows (signals settings runs) then 0 else 1
        failed := p.metrics.failed + if Decision.Overflows (signals settings runs) then 1 else 0
        cacheHits := p.metrics.cacheHits } := by
  have hobserved : (observeAll settings env.now a.requestId p runs).metrics.requests = p.metrics.requests :=
    requests_observeAll runs
  simp only [Metrics.requests, RequestCounts.mk.injEq] at hobserved
  rw [metrics_conclude]
  cases haggregated : aggregated settings runs with
  | ok x =>
    have hfinite := ((Decision.aggregate_eq_ok_iff ..).mp haggregated).1
    simp [Metrics.requests, Metrics.recordRequest, hobserved, signals, hfinite]
  | error e =>
    have hoverflow : Decision.Overflows (signals settings runs) := by
      by_contra hfinite
      have hok := (Decision.aggregate_eq_ok_iff ..).mpr ⟨hfinite, rfl⟩
      rw [← aggregated, haggregated] at hok
      cases hok
    simp [Metrics.requests, Metrics.recordRequest, Metrics.recordError, hobserved, hoverflow]

lemma stages_conclude (env : Surroundings) (a : Attempt) (key : String) (runs : StageRuns) :
    (p.conclude settings env a key runs).pipeline.metrics.stages =
      (observeAll settings env.now a.requestId p runs).metrics.stages := by
  rw [metrics_conclude]
  split <;> rfl

lemma errors_conclude {known : List ErrorRecord} (env : Surroundings) (a : Attempt) (key : String)
    (runs : StageRuns) (h : p.metrics.errors = known.rtake (max settings.metrics.errorHistorySize 1)) :
    (p.conclude settings env a key runs).pipeline.metrics.errors =
      (known ++ ((Stage.all.filterMap fun stage => PipelineError.ofRun? (runs.run stage)) ++
        match aggregated settings runs with
        | .error e => [.aggregation e.message]
        | .ok _ => []).map fun e => ErrorRecord.mk env.now e (some a.requestId)).rtake
          (max settings.metrics.errorHistorySize 1) := by
  have hobserved := @errors_observeAll _ settings env.now a.requestId p known runs h
  rw [metrics_conclude]
  cases haggregated : aggregated settings runs with
  | ok x => simpa [Metrics.recordRequest] using hobserved
  | error e =>
    have hrecorded := Metrics.errors_recordError hobserved (.aggregation e.message) (some a.requestId) env.now
    simpa [Metrics.recordRequest] using hrecorded

end Observe

end Pipeline

namespace Call

variable {σ : Type} {settings : Settings} {c : Call σ} {p : Pipeline σ}

lemma fails_iff : c.Fails settings p ↔ ¬c.Served settings p ∧ c.Overflows settings p :=
  and_congr_right fun h => reply_isPipelineFailure_iff h

def noticed (settings : Settings) (c : Call σ) (p : Pipeline σ) : Metrics :=
  match (c.lookup settings p).2 with
  | .corrupted fault => p.metrics.recordError settings.metrics (.cacheCorruption fault.message)
      (some c.attempt.requestId) c.env.now
  | _ => p.metrics

lemma metrics_of_hit {r : Assessment} (h : (c.lookup settings p).2 = .hit r) :
    (c.reply settings p).pipeline.metrics = p.metrics.recordCacheHit := by
  simp only [lookup, key] at h
  simp only [reply, Pipeline.analyze, Pipeline.begin, h]

lemma reply_of_noticed (h : ¬c.Served settings p) :
    ∃ q : Pipeline σ, q.metrics = c.noticed settings p ∧
      c.reply settings p =
        q.conclude settings c.env c.attempt (c.key settings) (c.runs settings p) := by
  simp only [Served, lookup, key] at h
  simp only [reply, Pipeline.analyze, Pipeline.begin, noticed, lookup, key, runs]
  cases hl : (p.cache.get settings.cache c.env.clock
      (Pipeline.cacheKey settings c.env c.attempt)).2 with
  | hit r => exact absurd ⟨r, hl⟩ h
  | miss =>
    refine ⟨_, ?_, rfl⟩
    rfl
  | corrupted fault =>
    refine ⟨_, ?_, rfl⟩
    rfl

lemma requests_noticed : (c.noticed settings p).requests = p.metrics.requests := by
  unfold noticed
  split <;> rfl

lemma stages_noticed : (c.noticed settings p).stages = p.metrics.stages := by
  unfold noticed
  split <;> rfl

lemma reason?_eq_disabled_iff (settings : Settings) (c : Call σ) (p : Pipeline σ) (stage : Stage) :
    c.reason? settings p stage = some .disabled ↔ settings.service.enables stage = false := by
  have hyields := yields_run settings c p stage
  unfold reason?
  generalize ((c.runs settings p).run stage).outcome = outcome at hyields
  cases hyields <;> simp_all [StageOutcome.reason]

lemma stageError?_eq (settings : Settings) (c : Call σ) (p : Pipeline σ) (stage : Stage) :
    c.stageError? settings p stage = PipelineError.ofRun? ((c.runs settings p).run stage) := by
  have hstage := (reported_run settings c p stage).stage
  unfold stageError? PipelineError.ofRun?
  rw [hstage]
  split <;> rename_i houtcome
  · rw [houtcome]
    rfl
  · rw [houtcome]
    rfl
  · rw [houtcome]
    rfl
  · cases h : ((c.runs settings p).run stage).outcome with
    | completed a => rfl
    | fallback a reason => cases reason <;> simp_all [StageOutcome.reason, PipelineError.ofFallback?]

lemma stageErrors_eq (settings : Settings) (c : Call σ) (p : Pipeline σ) :
    c.stageErrors settings p =
      (Stage.all.filterMap fun stage => PipelineError.ofRun? ((c.runs settings p).run stage)) ++
        match Pipeline.aggregated settings (c.runs settings p) with
        | .error e => [.aggregation e.message]
        | .ok _ => [] := by
  rw [stageErrors, funext (stageError?_eq settings c p)]

lemma counts_reply (h : ¬c.Served settings p) (stage : Stage) :
    ((c.reply settings p).pipeline.metrics.stages.get stage).counts =
      if c.Invokes settings p stage then
        { invocations := (p.metrics.stages.get stage).invocations + 1
          fallbacks := (p.metrics.stages.get stage).fallbacks +
            if (c.reason? settings p stage).isSome then 1 else 0
          timeouts := (p.metrics.stages.get stage).timeouts +
            if (c.reason? settings p stage).any FallbackReason.isTimeout then 1 else 0 }
      else (p.metrics.stages.get stage).counts := by
  obtain ⟨q, hq, hreply⟩ := reply_of_noticed h
  have hstages : q.metrics.stages = p.metrics.stages := hq ▸ stages_noticed
  have hreported := reported_run settings c p stage
  rw [hreply, Pipeline.stages_conclude, Pipeline.stages_observeAll (reported_run settings c p),
    hreported.fallback, hstages]
  change (if c.reason? settings p stage = some .disabled then _ else _ : StageCounters).counts = _
  cases henabled : settings.service.enables stage with
  | false =>
    have hinvokes : ¬c.Invokes settings p stage := fun h => by simp [h.2] at henabled
    rw [if_pos ((reason?_eq_disabled_iff ..).mpr henabled), if_neg hinvokes]
  | true =>
    have hinvokes : c.Invokes settings p stage := ⟨h, henabled⟩
    have hdisabled : c.reason? settings p stage ≠ some .disabled := by
      simp [reason?_eq_disabled_iff, henabled]
    rw [if_neg hdisabled, if_pos hinvokes, Metrics.counts_countRun, hreported.fallback]
    rfl

lemma errors_reply (h : ¬c.Served settings p) {known : List ErrorRecord}
    (hknown : p.metrics.errors = known.rtake (max settings.metrics.errorHistorySize 1)) :
    (c.reply settings p).pipeline.metrics.errors =
      (known ++ (c.errors settings p).map c.record).rtake (max settings.metrics.errorHistorySize 1) := by
  obtain ⟨q, hq, hreply⟩ := reply_of_noticed h
  have hnoticed : q.metrics.errors = (known ++
      match (c.lookup settings p).2 with
      | .corrupted fault => [c.record (.cacheCorruption fault.message)]
      | _ => []).rtake (max settings.metrics.errorHistorySize 1) := by
    rw [hq, noticed]
    split
    · exact Metrics.errors_recordError hknown _ _ _
    · simpa using hknown
  rw [hreply, Pipeline.errors_conclude _ _ _ _ hnoticed, ← stageErrors_eq, List.append_assoc]
  congr 2
  cases hlookup : (c.lookup settings p).2 with
  | hit r => exact absurd ⟨r, hlookup⟩ h
  | miss =>
    simp only [errors, hlookup]
    rfl
  | corrupted fault =>
    simp only [errors, hlookup]
    rfl

end Call

namespace Pipeline

variable {σ : Type}

/-- What the metrics hold after these calls, each with the pipeline that it found. -/
structure Accounts (settings : Settings) (m : Metrics) (calls : List (Call σ × Pipeline σ)) : Prop where
  requests : m.requests =
    { total := calls.length
      successful := calls.countP fun v => ¬v.1.Fails settings v.2
      failed := calls.countP fun v => v.1.Fails settings v.2
      cacheHits := calls.countP fun v => v.1.Served settings v.2 }
  stages : ∀ stage, (m.stages.get stage).counts =
    { invocations := calls.countP fun v => v.1.Invokes settings v.2 stage
      fallbacks := calls.countP fun v =>
        v.1.Invokes settings v.2 stage ∧ (v.1.reason? settings v.2 stage).isSome
      timeouts := calls.countP fun v =>
        v.1.Invokes settings v.2 stage ∧ (v.1.reason? settings v.2 stage).any FallbackReason.isTimeout }
  errors : m.errors = (calls.flatMap fun v => (v.1.errors settings v.2).map v.1.record).rtake
    (max settings.metrics.errorHistorySize 1)

namespace Accounts

variable {settings : Settings} {p : Pipeline σ} {m : Metrics} {calls : List (Call σ × Pipeline σ)}

lemma initial (settings : Settings) (s : σ) :
    Accounts settings (Pipeline.initial s).metrics ([] : List (Call σ × Pipeline σ)) :=
  ⟨rfl, fun stage => by cases stage <;> rfl, by simp [Pipeline.initial]⟩

lemma hit (h : Accounts settings p.metrics calls) {c : Call σ} {r : Assessment}
    (hr : (c.lookup settings p).2 = .hit r) :
    Accounts settings (c.reply settings p).pipeline.metrics (calls ++ [(c, p)]) := by
  have hserved : c.Served settings p := ⟨r, hr⟩
  have hfails : ¬c.Fails settings p := fun hfails => hfails.1 hserved
  have hinvokes (stage : Stage) : ¬c.Invokes settings p stage := fun hinvokes => hinvokes.1 hserved
  rw [Call.metrics_of_hit hr]
  refine ⟨?_, fun stage => ?_, ?_⟩
  · have hrequests := h.requests
    simp only [Metrics.requests, RequestCounts.mk.injEq] at hrequests
    simp [Metrics.requests, Metrics.recordCacheHit, hrequests, hserved, hfails, List.countP_append]
  · refine (h.stages stage).trans ?_
    simp [hinvokes, List.countP_append]
  · have herrors : c.errors settings p = [] := by
      rw [Call.errors, hr]
    simpa [Metrics.recordCacheHit, herrors] using h.errors

lemma computed (h : Accounts settings p.metrics calls) {c : Call σ} (hserved : ¬c.Served settings p) :
    Accounts settings (c.reply settings p).pipeline.metrics (calls ++ [(c, p)]) := by
  refine ⟨?_, fun stage => ?_, ?_⟩
  · obtain ⟨q, hq, hreply⟩ := Call.reply_of_noticed hserved
    have hrequests := h.requests
    rw [← Call.requests_noticed (c := c), ← hq] at hrequests
    simp only [Metrics.requests, RequestCounts.mk.injEq] at hrequests
    rw [hreply, requests_conclude]
    by_cases hoverflow : Decision.Overflows (signals settings (c.runs settings p))
    · have hfails : c.Fails settings p := Call.fails_iff.mpr ⟨hserved, hoverflow⟩
      simp [hrequests, hserved, hfails, hoverflow, List.countP_append]
    · have hfails : ¬c.Fails settings p := fun hfails => hoverflow (Call.fails_iff.mp hfails).2
      simp [hrequests, hserved, hfails, hoverflow, List.countP_append]
  · have hstages := h.stages stage
    rw [Call.counts_reply hserved stage]
    by_cases hinvokes : c.Invokes settings p stage
    · simp only [StageCounters.counts, StageCounts.mk.injEq] at hstages
      simp [hstages, hinvokes, List.countP_append, List.countP_cons]
    · rw [if_neg hinvokes, hstages]
      simp [hinvokes, List.countP_append]
  · rw [Call.errors_reply hserved h.errors, List.flatMap_append, List.flatMap_singleton]

end Accounts

/-- The metrics after a run are those of its calls: clean-ups and what others put into the cache leave them
alone. -/
lemma Accounts.run {settings : Settings} {p : Pipeline σ} {calls : List (Call σ × Pipeline σ)}
    (h : Accounts settings p.metrics calls) (events : List (PipelineEvent σ)) :
    Accounts settings (run settings p events).metrics (calls ++ visits settings p events) := by
  induction events generalizing p calls with
  | nil => simpa [visits] using h
  | cons e events ih =>
    rw [run_cons]
    cases e with
    | call c =>
      have hcall : Accounts settings (p.step settings (.call c)).metrics (calls ++ [(c, p)]) := by
        by_cases hserved : c.Served settings p
        · obtain ⟨r, hr⟩ := hserved
          exact h.hit hr
        · exact h.computed hserved
      rw [visits, ← List.singleton_append, ← List.append_assoc]
      exact ih hcall
    | cleanup analyzers env =>
      have hmetrics : (p.step settings (.cleanup analyzers env)).metrics = p.metrics := by
        simp only [step, cleanup]
        split <;> rfl
      exact ih (hmetrics ▸ h)
    | insertion clock key r => exact ih h

lemma length_visits (settings : Settings) (p : Pipeline σ) (events : List (PipelineEvent σ)) :
    (visits settings p events).length = events.countP PipelineEvent.isCall := by
  induction events generalizing p with
  | nil => rfl
  | cons e rest ih => cases e <;> simp [visits, ih, PipelineEvent.isCall, List.countP_cons]

/-- After any run from a fresh pipeline, whatever others put into its cache, each call counts once. The
failures are the calls that ended in the fallback of the whole pipeline without being answered from the cache;
a stage that is switched on has run in every call not answered from the cache; and the error history shows the
latest of the last errors of all calls, the newest first. -/
theorem counters_of_run (settings : Settings) (s : σ) (events : List (PipelineEvent σ)) :
    let m := (run settings (initial s) events).metrics
    let calls := visits settings (initial s) events
    calls.length = events.countP PipelineEvent.isCall ∧
    m.total = calls.length ∧
    m.total = m.successful + m.failed ∧
    (m.failed = calls.countP fun v =>
      ¬v.1.Served settings v.2 ∧ (v.1.reply settings v.2).assessment.IsPipelineFailure) ∧
    (m.cacheHits = calls.countP fun v => v.1.Served settings v.2) ∧
    (∀ stage, (m.stages.get stage).invocations =
      if settings.service.enables stage then calls.length - m.cacheHits else 0) ∧
    (∀ stage,
      ((m.stages.get stage).fallbacks = calls.countP fun v =>
        v.1.Invokes settings v.2 stage ∧ (v.1.reason? settings v.2 stage).isSome) ∧
      ((m.stages.get stage).timeouts = calls.countP fun v =>
        v.1.Invokes settings v.2 stage ∧ (v.1.reason? settings v.2 stage).any FallbackReason.isTimeout) ∧
      (m.stages.get stage).timeouts ≤ (m.stages.get stage).fallbacks ∧
      (m.stages.get stage).fallbacks ≤ (m.stages.get stage).invocations) ∧
    ∀ limit, m.errorHistory limit =
      ((calls.flatMap fun v => (v.1.errors settings v.2).map v.1.record).rtake
        (max settings.metrics.errorHistorySize 1)).reverse.take limit := by
  intro m calls
  have h : Accounts settings m calls := (Accounts.initial settings s).run events
  have hrequests := h.requests
  simp only [Metrics.requests, RequestCounts.mk.injEq] at hrequests
  obtain ⟨htotal, hsuccessful, hfailed, hhits⟩ := hrequests
  have hstages (stage : Stage) := h.stages stage
  simp only [StageCounters.counts, StageCounts.mk.injEq] at hstages
  refine ⟨length_visits settings _ events, htotal, ?_, hfailed, hhits, fun stage => ?_, fun stage => ?_,
    fun limit => ?_⟩
  · rw [htotal, hsuccessful, hfailed, Nat.add_comm]
    simpa using List.length_eq_countP_add_countP (l := calls) fun v => decide (v.1.Fails settings v.2)
  · rw [(hstages stage).1, hhits]
    cases henabled : settings.service.enables stage with
    | false => simp [Call.Invokes, henabled]
    | true =>
      have hsplit := List.length_eq_countP_add_countP (l := calls) fun v => decide (v.1.Served settings v.2)
      simp only [Call.Invokes, henabled, and_true, if_true]
      simp only [decide_eq_true_eq] at hsplit
      omega
  · refine ⟨(hstages stage).2.1, (hstages stage).2.2, ?_⟩
    rw [(hstages stage).1, (hstages stage).2.1, (hstages stage).2.2]
    refine ⟨List.countP_mono_left fun v _ hv => ?_, List.countP_mono_left fun v _ hv => ?_⟩
    · simp only [decide_eq_true_eq] at hv ⊢
      exact ⟨hv.1, Option.isSome_of_any hv.2⟩
    · simp only [decide_eq_true_eq] at hv ⊢
      exact hv.1
  · rw [Metrics.errorHistory, h.errors]

end Pipeline

end LoginRisk
