import LoginRisk.Proofs.Pipeline.Call

/-!
What becomes of each stage, and that no other stage has a part in it. A stage contributes the value of its
analyzer if that comes in time, and its fallback otherwise; which of the two and why is in its report.
-/

namespace LoginRisk

namespace Stage

abbrev Findings : Stage → Type
  | .credential => CredentialFindings
  | .embedding => EmbeddingFindings
  | .anomaly => BehaviorFindings
  | .threat => ThreatFindings

def fallback : (stage : Stage) → stage.Findings
  | .credential => CredentialFindings.fallback
  | .embedding => EmbeddingFindings.fallback
  | .anomaly => BehaviorFindings.fallback
  | .threat => ThreatFindings.fallback

def clamp : (stage : Stage) → stage.Findings → stage.Findings
  | .credential => CredentialFindings.clamp
  | .embedding => EmbeddingFindings.clamp
  | .anomaly => BehaviorFindings.clamp
  | .threat => ThreatFindings.clamp

end Stage

namespace ServiceSettings

def enables (v : ServiceSettings) : Stage → Bool
  | .credential => v.enableCredential
  | .embedding => v.enableEmbedding
  | .anomaly => v.enableAnomaly
  | .threat => v.enableThreat

def timeoutMs (v : ServiceSettings) : Stage → Nat
  | .credential => v.credentialTimeoutMs
  | .embedding => v.embeddingTimeoutMs
  | .anomaly => v.anomalyTimeoutMs
  | .threat => v.threatTimeoutMs

end ServiceSettings

def Assessment.findings (r : Assessment) : (stage : Stage) → stage.Findings
  | .credential => r.credential
  | .embedding => r.embedding
  | .anomaly => r.behavior
  | .threat => r.threat

def StageRuns.run (runs : StageRuns) : (stage : Stage) → StageRun stage.Findings
  | .credential => runs.credential
  | .embedding => runs.embedding
  | .anomaly => runs.anomaly
  | .threat => runs.threat

lemma StageRuns.count_mask (runs : StageRuns) :
    runs.mask.count = Stage.all.countP fun stage => (runs.run stage).outcome.isFallback := by
  simp [mask, FallbackMask.count, Stage.all, run, List.countP_cons]

namespace StageTask

variable {α : Type}

/-- One piece of work after the other: the second starts from the value of the first. -/
def andThen {β : Type} (first : StageTask α) (next : α → StageTask β) : StageTask β :=
  match first.ending with
  | .value a =>
    { ending := (next a).ending
      delayMs := first.delayMs + (next a).delayMs
      elapsedMs := first.elapsedMs + (next a).elapsedMs }
  | .failure message => { first with ending := .failure message }
  | .panicked => { first with ending := .panicked }

/-- Two pieces of work that end alike after the same wait, whatever the stopwatch says. -/
def Alike (t u : StageTask α) : Prop := t.ending = u.ending ∧ t.delayMs = u.delayMs

/-- What a stage contributes that is given a piece of work: the value if it comes within the budget, and
else the fallback for the reason that applies. -/
inductive Yields (enabled : Bool) (budgetMs : Nat) (fallback : α) (task : StageTask α) :
    StageOutcome α → Prop
  | completed (a : α) (h : enabled = true) (intime : task.delayMs < budgetMs)
      (hvalue : task.ending = .value a) : Yields enabled budgetMs fallback task (.completed a)
  | disabled (h : enabled = false) : Yields enabled budgetMs fallback task (.fallback fallback .disabled)
  | timeout (h : enabled = true) (late : budgetMs ≤ task.delayMs) :
      Yields enabled budgetMs fallback task (.fallback fallback (.timeout budgetMs))
  | failure (message : String) (h : enabled = true) (intime : task.delayMs < budgetMs)
      (hfailure : task.ending = .failure message) :
      Yields enabled budgetMs fallback task (.fallback fallback (.failure message))
  | panicked (h : enabled = true) (intime : task.delayMs < budgetMs) (hpanic : task.ending = .panicked) :
      Yields enabled budgetMs fallback task (.fallback fallback .panicked)

variable {enabled : Bool} {budgetMs : Nat} {fallback : α} {t u : StageTask α} {o o' : StageOutcome α}

lemma yields_outcomeOf (henabled : enabled = true) (budgetMs : Nat) (fallback : α) (t : StageTask α) :
    Yields enabled budgetMs fallback t (StageRun.outcomeOf budgetMs fallback t) := by
  unfold StageRun.outcomeOf
  split
  · rename_i hlate
    exact .timeout henabled hlate
  · rename_i hlate
    have hintime : t.delayMs < budgetMs := by omega
    split
    · rename_i a ha
      exact .completed a henabled hintime ha
    · rename_i message hmessage
      exact .failure message henabled hintime hmessage
    · rename_i hpanic
      exact .panicked henabled hintime hpanic

lemma Yields.unique (h : Yields enabled budgetMs fallback t o) (h' : Yields enabled budgetMs fallback u o')
    (hlike : t.Alike u) : o = o' := by
  obtain ⟨hending, hdelay⟩ := hlike
  cases h <;> cases h' <;> grind

/-- Work that either ends alike or misses the budget both times contributes the same. -/
lemma Yields.of_late_or_alike (h : Yields enabled budgetMs fallback t o)
    (hlike : t.Alike u ∨ (budgetMs ≤ t.delayMs ∧ budgetMs ≤ u.delayMs)) :
    Yields enabled budgetMs fallback u o := by
  cases h with
  | completed a h intime hvalue => exact .completed a h (by grind [Alike]) (by grind [Alike])
  | disabled h => exact .disabled h
  | timeout h late => exact .timeout h (by grind [Alike])
  | failure message h intime hfailure => exact .failure message h (by grind [Alike]) (by grind [Alike])
  | panicked h intime hpanic => exact .panicked h (by grind [Alike]) (by grind [Alike])

end StageTask

namespace Pipeline

variable {σ : Type}

lemma yields_runStage {α : Type} (stage : Stage) (enabled : Bool) (budgetMs : Nat) (fallback : α)
    (work : σ → σ × StageTask α) (s : σ) :
    (work s).2.Yields enabled budgetMs fallback
      (runStage stage enabled budgetMs fallback work s).2.1.outcome := by
  unfold runStage
  split
  · rename_i hdisabled
    exact .disabled (by simpa using hdisabled)
  · rename_i henabled
    have henabled : enabled = true := by simpa using henabled
    split
    · rename_i hzero
      subst hzero
      exact .timeout henabled (Nat.zero_le _)
    · exact StageTask.yields_outcomeOf henabled budgetMs fallback (work s).2

/-- The vector is only compared if there is time left, which makes no difference to the outcome. -/
lemma embeddingWork_late_or_alike (A : Analyzers σ) (profiles : ProfileStore) (a : Attempt) (budgetMs : Nat)
    (s : σ) :
    let first := A.embed a s
    let task := first.2.andThen fun e => (A.score profiles a e first.1).2
    (embeddingWork A profiles a budgetMs s).2.Alike task ∨
      (budgetMs ≤ (embeddingWork A profiles a budgetMs s).2.delayMs ∧ budgetMs ≤ task.delayMs) := by
  dsimp only
  cases hending : (A.embed a s).2.ending with
  | value e =>
    by_cases hlate : budgetMs ≤ (A.embed a s).2.delayMs
    · -- The stage stops here, and the whole task would take even longer.
      right
      simp only [embeddingWork, StageTask.andThen, hending, hlate, if_true, true_and]
      omega
    · left
      simp [embeddingWork, StageTask.andThen, StageTask.Alike, hending, hlate]
  | failure message => left; simp [embeddingWork, StageTask.andThen, StageTask.Alike, hending]
  | panicked => left; simp [embeddingWork, StageTask.andThen, StageTask.Alike, hending]

lemma eq_assessed_of_assemble {settings : Settings} {now : Instant} {elapsedMs : Float} {a : Attempt}
    {runs : StageRuns} {r : Assessment} (h : assemble settings now elapsedMs a runs = .ok r) :
    r = assessed settings now elapsedMs a runs (score settings runs) := by
  by_cases hoverflow : Decision.Overflows (signals settings runs)
  · obtain ⟨e, he⟩ := assemble_of_overflows now elapsedMs a hoverflow
    rw [he] at h
    cases h
  · rw [(assemble_of_not_overflows now elapsedMs a hoverflow).1] at h
    cases h
    rfl

end Pipeline

namespace Call

variable {σ τ : Type} {settings : Settings} {c : Call σ} {d : Call τ} {p : Pipeline σ} {q : Pipeline τ}

def task (c : Call σ) (s : σ) : (stage : Stage) → StageTask stage.Findings
  | .credential => (c.analyzers.credential c.attempt.email c.attempt.credentialDigest s).2
  | .embedding =>
    (c.analyzers.embed c.attempt s).2.andThen fun e =>
      (c.analyzers.score c.profiles c.attempt e (c.analyzers.embed c.attempt s).1).2
  | .anomaly => (c.analyzers.anomaly c.profiles c.attempt s).2
  | .threat => (c.analyzers.threat c.env.now c.attempt s).2

def work (settings : Settings) (c : Call σ) : (stage : Stage) → σ → σ × StageTask stage.Findings
  | .credential => c.analyzers.credential c.attempt.email c.attempt.credentialDigest
  | .embedding =>
    Pipeline.embeddingWork c.analyzers c.profiles c.attempt
      (Pipeline.budget settings.service settings.service.embeddingTimeoutMs)
  | .anomaly => c.analyzers.anomaly c.profiles c.attempt
  | .threat => c.analyzers.threat c.env.now c.attempt

def runStage (settings : Settings) (c : Call σ) (stage : Stage) (s : σ) :
    σ × StageRun stage.Findings × Nat :=
  Pipeline.runStage stage (settings.service.enables stage)
    (min (settings.service.timeoutMs stage) settings.service.maxProcessingMs) stage.fallback
    (c.work settings stage) s

def before (settings : Settings) (c : Call σ) (s : σ) : Stage → σ
  | .credential => s
  | .embedding => (c.runStage settings .credential s).1
  | .anomaly => (c.runStage settings .embedding (c.runStage settings .credential s).1).1
  | .threat => (c.runStage settings .anomaly
      (c.runStage settings .embedding (c.runStage settings .credential s).1).1).1

lemma run_runs (settings : Settings) (c : Call σ) (p : Pipeline σ) (stage : Stage) :
    (c.runs settings p).run stage =
      (c.runStage settings stage (c.before settings p.analyzers stage)).2.1 := by
  cases stage <;> rfl

lemma yields_run (settings : Settings) (c : Call σ) (p : Pipeline σ) (stage : Stage) :
    (c.task (c.before settings p.analyzers stage) stage).Yields (settings.service.enables stage)
      (min (settings.service.timeoutMs stage) settings.service.maxProcessingMs) stage.fallback
      ((c.runs settings p).run stage).outcome := by
  rw [run_runs]
  have hwork := Pipeline.yields_runStage stage (settings.service.enables stage)
    (min (settings.service.timeoutMs stage) settings.service.maxProcessingMs) stage.fallback
    (c.work settings stage) (c.before settings p.analyzers stage)
  cases stage with
  | credential => exact hwork
  | embedding => exact hwork.of_late_or_alike (Pipeline.embeddingWork_late_or_alike ..)
  | anomaly => exact hwork
  | threat => exact hwork

lemma reported_run (settings : Settings) (c : Call σ) (p : Pipeline σ) (stage : Stage) :
    ((c.runs settings p).run stage).Reported stage := by
  rw [run_runs]
  exact Pipeline.reported_runStage ..

/-- A stage does alike in two calls from memories that are related, and whatever the other stages leave in
either memory is related again. -/
structure Couples (settings : Settings) (c : Call σ) (d : Call τ) (stage : Stage) (R : σ → τ → Prop) :
    Prop where
  alike : ∀ s t, R s t → (c.task s stage).Alike (d.task t stage)
  left : ∀ other ≠ stage, ∀ s t, R s t → R (c.runStage settings other s).1 t
  right : ∀ other ≠ stage, ∀ s t, R s t → R s (d.runStage settings other t).1

lemma Couples.before {stage : Stage} {R : σ → τ → Prop} (h : c.Couples settings d stage R) {s : σ} {t : τ}
    (hst : R s t) : R (c.before settings s stage) (d.before settings t stage) := by
  -- The two calls run one after the other: the memory of one stands still while the other moves on.
  have hleft : ∀ t, R s t → R (c.before settings s stage) t := by
    intro t hst
    cases stage with
    | credential => exact hst
    | embedding => exact h.left _ (by decide) _ _ hst
    | anomaly => exact h.left _ (by decide) _ _ (h.left _ (by decide) _ _ hst)
    | threat => exact h.left _ (by decide) _ _ (h.left _ (by decide) _ _ (h.left _ (by decide) _ _ hst))
  have hright : R s (d.before settings t stage) := by
    cases stage with
    | credential => exact hst
    | embedding => exact h.right _ (by decide) _ _ hst
    | anomaly => exact h.right _ (by decide) _ _ (h.right _ (by decide) _ _ hst)
    | threat => exact h.right _ (by decide) _ _ (h.right _ (by decide) _ _ (h.right _ (by decide) _ _ hst))
  exact hleft _ hright

lemma outcome_eq_of_alike {stage : Stage}
    (h : (c.task (c.before settings p.analyzers stage) stage).Alike
      (d.task (d.before settings q.analyzers stage) stage)) :
    ((c.runs settings p).run stage).outcome = ((d.runs settings q).run stage).outcome :=
  (yields_run settings c p stage).unique (yields_run settings d q stage) h

def compute (settings : Settings) (c : Call σ) (p : Pipeline σ) : Except PipelineError Assessment :=
  Pipeline.assemble settings c.env.now c.env.elapsedMs c.attempt (c.runs settings p)

lemma findings_of_compute {r : Assessment} (h : c.compute settings p = .ok r) (stage : Stage) :
    r.findings stage = stage.clamp ((c.runs settings p).run stage).outcome.value := by
  rw [Pipeline.eq_assessed_of_assemble h]
  cases stage <;> rfl

lemma reports_of_compute {r : Assessment} (h : c.compute settings p = .ok r) :
    r.reports = Stage.all.map fun stage => ((c.runs settings p).run stage).report := by
  rw [Pipeline.eq_assessed_of_assemble h]
  rfl

lemma fallbackCount_of_compute {r : Assessment} (h : c.compute settings p = .ok r) :
    r.fallbackCount = Stage.all.countP fun stage => ((c.runs settings p).run stage).outcome.isFallback := by
  rw [Assessment.fallbackCount, reports_of_compute h, List.countP_map]
  refine List.countP_congr fun stage _ => ?_
  simp [StageReport.isFallback, (reported_run settings c p stage).fallback, StageOutcome.isFallback]

lemma fallback_of_mem_reports {r : Assessment} (h : c.compute settings p = .ok r) {report : StageReport}
    (hreport : report ∈ r.reports) :
    report.fallback = ((c.runs settings p).run report.stage).outcome.reason := by
  rw [reports_of_compute h] at hreport
  obtain ⟨stage, -, rfl⟩ := List.mem_map.mp hreport
  have hreported := reported_run settings c p stage
  rw [hreported.stage, hreported.fallback]

end Call

namespace Pipeline

/-- Wherever an assessment is made, each of its four parts is the clamped value of that stage's analyzer if
this came in time, and the clamped fallback otherwise; the reports say which, and why; the confidence
counts the fallbacks. The other stages make no difference: two assessments agree on a stage that does
alike in both calls, in particular on one that depends on nothing which the others leave behind. -/
theorem stages_are_isolated (settings : Settings) :
    (∀ (σ : Type) (c : Call σ) (p : Pipeline σ) (r : Assessment), c.compute settings p = .ok r →
      ∃ outcome : (stage : Stage) → StageOutcome stage.Findings,
        (∀ stage, (c.task (c.before settings p.analyzers stage) stage).Yields
          (settings.service.enables stage)
          (min (settings.service.timeoutMs stage) settings.service.maxProcessingMs) stage.fallback
          (outcome stage)) ∧
        (∀ stage, r.findings stage = stage.clamp (outcome stage).value) ∧
        r.reports.map (fun report => (report.stage, report.fallback)) =
          Stage.all.map (fun stage => (stage, (outcome stage).reason)) ∧
        r.fallbackCount = Stage.all.countP (fun stage => (outcome stage).isFallback) ∧
        r.fallbackCount = (c.runs settings p).mask.count ∧
        r.confidence = Decision.confidence settings.scoring (c.runs settings p).mask r.behavior) ∧
    ∀ (σ τ : Type) (c : Call σ) (d : Call τ) (p : Pipeline σ) (q : Pipeline τ) (r r' : Assessment),
      c.compute settings p = .ok r → d.compute settings q = .ok r' →
      ∀ stage,
        ((c.task (c.before settings p.analyzers stage) stage).Alike
            (d.task (d.before settings q.analyzers stage) stage) ∨
          ∃ R, c.Couples settings d stage R ∧ R p.analyzers q.analyzers) →
        r.findings stage = r'.findings stage ∧
        ∀ report ∈ r.reports, ∀ report' ∈ r'.reports, report.stage = stage → report'.stage = stage →
          report.fallback = report'.fallback := by
  constructor
  · intro σ c p r hr
    refine ⟨fun stage => ((c.runs settings p).run stage).outcome, Call.yields_run settings c p,
      Call.findings_of_compute hr, ?_, Call.fallbackCount_of_compute hr, ?_, ?_⟩
    · rw [Call.reports_of_compute hr, List.map_map]
      refine List.map_congr_left fun stage _ => ?_
      have hreported := Call.reported_run settings c p stage
      exact Prod.ext hreported.stage hreported.fallback
    · rw [Call.fallbackCount_of_compute hr, StageRuns.count_mask]
    · rw [eq_assessed_of_assemble hr]
      rfl
  · intro σ τ c d p q r r' hr hr' stage hsame
    have halike : (c.task (c.before settings p.analyzers stage) stage).Alike
        (d.task (d.before settings q.analyzers stage) stage) := by
      rcases hsame with halike | ⟨R, hcouples, hR⟩
      · exact halike
      · exact hcouples.alike _ _ (hcouples.before hR)
    have houtcome := Call.outcome_eq_of_alike halike
    refine ⟨?_, fun report hreport report' hreport' hstage hstage' => ?_⟩
    · rw [Call.findings_of_compute hr, Call.findings_of_compute hr', houtcome]
    · rw [Call.fallback_of_mem_reports hr hreport, Call.fallback_of_mem_reports hr' hreport']
      subst hstage
      rw [hstage', houtcome]

/-- Of two calls whose users have different biases, both run two stages on their fallback, and they agree
on the source of the attempt. -/
theorem hostile_stages_are_isolated :
    ∃ r r', (Call.hostile 0.25).compute {} (initial ()) = .ok r ∧
      (Call.hostile 0.5).compute {} (initial ()) = .ok r' ∧
      r.fallbackCount = 2 ∧ r'.fallbackCount = 2 ∧ r.findings .threat = r'.findings .threat := by
  have hcompute (bias : Float) (hfinite : ¬(Call.hostile bias).Overflows {} (initial ())) :
      (Call.hostile bias).compute {} (initial ()) = .ok ((Call.hostile bias).computed {} (initial ())) :=
    (assemble_of_not_overflows _ _ _ hfinite).1
  have hr := hcompute 0.25 (by decide +kernel)
  have hr' := hcompute 0.5 (by decide +kernel)
  have hcouples : (Call.hostile 0.25).Couples {} (Call.hostile 0.5) .threat fun _ _ => True :=
    ⟨fun _ _ _ => by simp [Call.task, Call.hostile, StageTask.Alike], fun _ _ _ _ _ => trivial,
      fun _ _ _ _ _ => trivial⟩
  have hcount : ((Call.hostile 0.25).runs {} (initial ())).mask.count = 2 := by decide +kernel
  have hcount' : ((Call.hostile 0.5).runs {} (initial ())).mask.count = 2 := by decide +kernel
  generalize (Call.hostile 0.25).computed {} (initial ()) = r at hr
  generalize (Call.hostile 0.5).computed {} (initial ()) = r' at hr'
  obtain ⟨heach, hboth⟩ := stages_are_isolated {}
  obtain ⟨-, -, -, -, -, hmask, -⟩ := heach _ _ _ _ hr
  obtain ⟨-, -, -, -, -, hmask', -⟩ := heach _ _ _ _ hr'
  exact ⟨r, r', hr, hr', hmask.trans hcount, hmask'.trans hcount',
    (hboth _ _ _ _ _ _ _ _ hr hr' .threat (.inr ⟨_, hcouples, trivial⟩)).1⟩

end Pipeline

end LoginRisk
