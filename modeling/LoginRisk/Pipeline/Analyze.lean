import LoginRisk.Assessment.Fallback
import LoginRisk.Assessment.Validate
import LoginRisk.Cache.Key
import LoginRisk.Cache.Result
import LoginRisk.Decision.Aggregate
import LoginRisk.Decision.Confidence
import LoginRisk.Decision.Decide
import LoginRisk.Event
import LoginRisk.Monitor.Health
import LoginRisk.Monitor.Metrics
import LoginRisk.Pipeline.Analyzers

/-!
The pipeline: an attempt is answered from the cache, or its four stages are run and their findings
made into an assessment, or a fallback is answered. The caller always gets an assessment.
-/

namespace LoginRisk

structure Pipeline (σ : Type) where
  analyzers : σ
  cache : ResultCache
  metrics : Metrics
  health : Health

/-- What the outside world contributes to a call. -/
structure Surroundings where
  now : Instant
  /-- A clock in milliseconds that never goes back. -/
  clock : Nat
  /-- How long the call takes by the stopwatch. -/
  elapsedMs : Float
  secret : Hash.Bytes

structure Reply (σ : Type) where
  pipeline : Pipeline σ
  assessment : Assessment
  events : List SecurityEvent

structure StageRuns where
  credential : StageRun CredentialFindings
  embedding : StageRun EmbeddingFindings
  anomaly : StageRun BehaviorFindings
  threat : StageRun ThreatFindings

namespace StageRuns

def reports (r : StageRuns) : List StageReport :=
  [r.credential.report, r.embedding.report, r.anomaly.report, r.threat.report]

def errors (r : StageRuns) : List (Option PipelineError) :=
  [PipelineError.ofRun? r.credential, PipelineError.ofRun? r.embedding,
    PipelineError.ofRun? r.anomaly, PipelineError.ofRun? r.threat]

def mask (r : StageRuns) : FallbackMask :=
  ⟨r.credential.outcome.isFallback, r.embedding.outcome.isFallback, r.anomaly.outcome.isFallback,
    r.threat.outcome.isFallback⟩

end StageRuns

/-- How far a call has got before anything waits. -/
inductive Progress (σ : Type) where
  | answered (reply : Reply σ)
  /-- The stages have been started, and the last of them ends after `delayMs` by the timer. -/
  | running (key : String) (runs : StageRuns) (delayMs : Nat) (pipeline : Pipeline σ)

namespace Pipeline

variable {σ : Type}

def componentName : String := "orchestrator"

def initial (analyzers : σ) : Pipeline σ :=
  { analyzers
    cache := .empty
    metrics := {}
    health := .ofNames (Stage.all.map Stage.component ++ [componentName]) }

def budget (s : ServiceSettings) (stageMs : Nat) : Nat := min stageMs s.maxProcessingMs

/-- Runs one stage unless it is switched off. Work without any budget is given up before it starts. -/
def runStage {α : Type} (stage : Stage) (enabled : Bool) (budgetMs : Nat) (fallback : α)
    (work : σ → σ × StageTask α) (s : σ) : σ × StageRun α × Nat :=
  if !enabled then (s, .disabled stage fallback, 0)
  else if budgetMs = 0 then (s, ⟨.fallback fallback (.timeout 0), ⟨stage, 0.0, some (.timeout 0)⟩⟩, 0)
  else
    let (s, task) := work s
    (s, .ofTask stage budgetMs fallback task, min task.delayMs budgetMs)

/-- The work of the embedding stage: a vector, and then its comparison unless the budget has run out. -/
def embeddingWork (A : Analyzers σ) (profiles : ProfileStore) (a : Attempt) (budgetMs : Nat) (s : σ) :
    σ × StageTask EmbeddingFindings :=
  let (s, first) := A.embed a s
  match first.ending with
  | .value e =>
    if budgetMs ≤ first.delayMs then (s, first)
    else
      let (s, second) := A.score profiles a e s
      (s, { second with
        delayMs := first.delayMs + second.delayMs
        elapsedMs := first.elapsedMs + second.elapsedMs })
  | _ => (s, first)

/-- Runs the four stages. They wait side by side, so that the longest wait is the wait of all. -/
def runStages (settings : Settings) (A : Analyzers σ) (profiles : ProfileStore) (now : Instant)
    (a : Attempt) (s : σ) : σ × StageRuns × Nat :=
  let v := settings.service
  let embeddingMs := budget v v.embeddingTimeoutMs
  let (s, credential, d1) :=
    runStage .credential v.enableCredential (budget v v.credentialTimeoutMs) .fallback
      (A.credential a.email a.credentialDigest) s
  let (s, embedding, d2) :=
    runStage .embedding v.enableEmbedding embeddingMs .fallback
      (embeddingWork A profiles a embeddingMs) s
  let (s, anomaly, d3) :=
    runStage .anomaly v.enableAnomaly (budget v v.anomalyTimeoutMs) .fallback
      (A.anomaly profiles a) s
  let (s, threat, d4) :=
    runStage .threat v.enableThreat (budget v v.threatTimeoutMs) .fallback (A.threat now a) s
  (s, ⟨credential, embedding, anomaly, threat⟩, max (max d1 d2) (max d3 d4))

def observe (settings : Settings) (now : Instant) (requestId : String) (p : Pipeline σ)
    (report : StageReport) (error : Option PipelineError) : Pipeline σ :=
  let metrics := p.metrics.recordStage report
  { p with
    metrics :=
      match error with
      | none => metrics
      | some e => metrics.recordError settings.metrics e (some requestId) now
    health := p.health.observeReport settings.health now report }

def observeAll (settings : Settings) (now : Instant) (requestId : String) (p : Pipeline σ)
    (runs : StageRuns) : Pipeline σ :=
  (runs.reports.zip runs.errors).foldl (fun p r => p.observe settings now requestId r.1 r.2) p

def isAnonymized (a : Attempt) (t : ThreatFindings) : Bool :=
  a.isTorExit || a.isVpn || t.actors.any fun actor => actor = "tor_user" || actor = "vpn_user"

def assemble (settings : Settings) (now : Instant) (elapsedMs : Float) (a : Attempt)
    (runs : StageRuns) : Except PipelineError Assessment := do
  let credential := runs.credential.outcome.value.clamp
  let embedding := runs.embedding.outcome.value.clamp
  let behavior := runs.anomaly.outcome.value.clamp
  let threat := runs.threat.outcome.value.clamp
  let score ← (Decision.aggregate settings.scoring credential embedding behavior threat).mapError
    fun e => .aggregation e.message
  let decision := Decision.decide settings.scoring score (isAnonymized a threat)
  let result : Assessment :=
    { requestId := a.requestId
      score
      level := decision.level
      shouldBlock := decision.shouldBlock
      requiresSecondFactor := decision.requiresSecondFactor
      actions := decision.actions
      confidence := Decision.confidence settings.scoring runs.mask behavior
      feedbackRequired := decision.feedbackRequired
      credential
      embedding
      behavior
      threat
      reports := runs.reports
      processingMs := elapsedMs
      timestamp := now }
  match result.firstFault with
  | some fault => .error (.aggregation fault.message)
  | none => return result

def succeed (settings : Settings) (env : Surroundings) (key : String) (r : Assessment)
    (p : Pipeline σ) : Pipeline σ :=
  { p with
    metrics := p.metrics.recordRequest settings.metrics env.elapsedMs true
    health := p.health.observe settings.health env.now componentName (.success env.elapsedMs)
    cache := p.cache.insert settings.cache env.clock key r }

def fail (settings : Settings) (env : Surroundings) (a : Attempt) (e : PipelineError)
    (p : Pipeline σ) : Pipeline σ :=
  { p with
    metrics := (p.metrics.recordError settings.metrics e (some a.requestId) env.now).recordRequest
      settings.metrics env.elapsedMs false
    health := p.health.observe settings.health env.now componentName
      (.failure env.elapsedMs e.message) }

/-- Answers the assessment of an attempt from its finished stages, or the fallback. -/
def conclude (settings : Settings) (env : Surroundings) (a : Attempt) (key : String) (runs : StageRuns)
    (p : Pipeline σ) : Reply σ :=
  let p := observeAll settings env.now a.requestId p runs
  match assemble settings env.now env.elapsedMs a runs with
  | .ok r =>
    { pipeline := p.succeed settings env key r
      assessment := r
      events := SecurityEvent.ofAssessment a r env.now }
  | .error e =>
    let r := Assessment.fallback a.requestId settings.service.fallbackScore env.elapsedMs env.now
    { pipeline := p.fail settings env a e
      assessment := r
      events := SecurityEvent.ofAssessment a r env.now }

def cacheKey (settings : Settings) (env : Surroundings) (a : Attempt) : String :=
  CacheKey.key env.secret settings.cache a

def runAll (settings : Settings) (A : Analyzers σ) (profiles : ProfileStore) (env : Surroundings)
    (a : Attempt) (key : String) (p : Pipeline σ) : Progress σ :=
  let (analyzers, runs, delayMs) := runStages settings A profiles env.now a p.analyzers
  .running key runs delayMs { p with analyzers }

/-- Starts on an attempt. A cached answer that blocks is reported again; an entry that broke a rule is
noted and the stages run. -/
def begin (settings : Settings) (A : Analyzers σ) (profiles : ProfileStore) (env : Surroundings)
    (a : Attempt) (p : Pipeline σ) : Progress σ :=
  let key := cacheKey settings env a
  let (cache, found) := p.cache.get settings.cache env.clock key
  let p := { p with cache }
  match found with
  | .hit r =>
    .answered
      { pipeline := { p with metrics := p.metrics.recordCacheHit }
        assessment := r
        events := if r.shouldBlock then SecurityEvent.ofAssessment a r env.now else [] }
  | .miss => p.runAll settings A profiles env a key
  | .corrupted fault =>
    let error := PipelineError.cacheCorruption fault.message
    let metrics := p.metrics.recordError settings.metrics error (some a.requestId) env.now
    { p with metrics }.runAll settings A profiles env a key

def analyze (settings : Settings) (A : Analyzers σ) (profiles : ProfileStore) (env : Surroundings)
    (a : Attempt) (p : Pipeline σ) : Reply σ :=
  match p.begin settings A profiles env a with
  | .answered reply => reply
  | .running key runs _ p => p.conclude settings env a key runs

/-- Drops what no longer counts from the memory of the analyzers and then from the cache. -/
def cleanup (settings : Settings) (A : Analyzers σ) (env : Surroundings) (p : Pipeline σ) :
    Pipeline σ × Except TimeOverflow Unit :=
  let (analyzers, cleaned) := A.cleanup env.now p.analyzers
  let p := { p with analyzers }
  match cleaned with
  | .error e => (p, .error e)
  | .ok () => ({ p with cache := p.cache.purge settings.cache env.clock }, .ok ())

end Pipeline

end LoginRisk
