import LoginRisk.Json.Basic
import LoginRisk.Pipeline.Error
import LoginRisk.Profile.Basic
import LoginRisk.Settings.Basic
import LoginRisk.Time.Rfc3339

/-!
Counters over requests and stages, recent durations and the latest errors.
-/

namespace LoginRisk

structure PerStage (α : Type) where
  credential : α
  embedding : α
  anomaly : α
  threat : α

namespace PerStage

variable {α : Type}

def get (p : PerStage α) : Stage → α
  | .credential => p.credential
  | .embedding => p.embedding
  | .anomaly => p.anomaly
  | .threat => p.threat

def modify (p : PerStage α) (f : α → α) : Stage → PerStage α
  | .credential => { p with credential := f p.credential }
  | .embedding => { p with embedding := f p.embedding }
  | .anomaly => { p with anomaly := f p.anomaly }
  | .threat => { p with threat := f p.threat }

end PerStage

structure StageCounters where
  invocations : Nat := 0
  fallbacks : Nat := 0
  timeouts : Nat := 0
  /-- The latest durations, the oldest first. -/
  latencies : List Float := []

structure ErrorRecord where
  timestamp : Instant
  error : PipelineError
  requestId : Option String
  deriving DecidableEq

structure Metrics where
  total : Nat := 0
  successful : Nat := 0
  /-- Requests that were answered with the fallback of the whole pipeline. -/
  failed : Nat := 0
  cacheHits : Nat := 0
  /-- The latest durations of requests that were not answered from the cache. -/
  processingTimes : List Float := []
  stages : PerStage StageCounters := ⟨{}, {}, {}, {}⟩
  /-- The latest errors, the oldest first. -/
  errors : List ErrorRecord := []

namespace Metrics

def latencyWindow : Nat := 256

def recordRequest (s : MetricsSettings) (m : Metrics) (elapsedMs : Float) (success : Bool) : Metrics :=
  { m with
    total := m.total + 1
    successful := if success then m.successful + 1 else m.successful
    failed := if success then m.failed else m.failed + 1
    processingTimes := pushBounded m.processingTimes elapsedMs (max s.processingWindow 1) }

def recordCacheHit (m : Metrics) : Metrics :=
  { m with total := m.total + 1, successful := m.successful + 1, cacheHits := m.cacheHits + 1 }

def countRun (r : StageReport) (c : StageCounters) : StageCounters :=
  { invocations := c.invocations + 1
    fallbacks := if r.fallback.isSome then c.fallbacks + 1 else c.fallbacks
    timeouts :=
      match r.fallback with
      | some (.timeout _) => c.timeouts + 1
      | _ => c.timeouts
    latencies := pushBounded c.latencies r.elapsedMs latencyWindow }

/-- Counts a report. A stage that is switched off was not invoked. -/
def recordStage (m : Metrics) (r : StageReport) : Metrics :=
  if r.fallback = some .disabled then m
  else { m with stages := m.stages.modify (countRun r) r.stage }

def recordError (s : MetricsSettings) (m : Metrics) (e : PipelineError) (requestId : Option String)
    (now : Instant) : Metrics :=
  { m with errors := pushBounded m.errors ⟨now, e, requestId⟩ (max s.errorHistorySize 1) }

def errorHistory (m : Metrics) (limit : Nat) : List ErrorRecord := m.errors.reverse.take limit

def mean (xs : List Float) : Float :=
  if xs.isEmpty then 0.0 else xs.foldl (· + ·) 0.0 / Float.ofNat xs.length

/-- A share of all requests, zero before the first. -/
def rate (m : Metrics) (n : Nat) : Float :=
  if m.total = 0 then 0.0 else Float.ofNat n / Float.ofNat m.total

end Metrics

def StageCounters.toJson (c : StageCounters) : Json := .object [
  ("invocations", .nat c.invocations),
  ("fallbacks", .nat c.fallbacks),
  ("timeouts", .nat c.timeouts),
  ("average_latency_ms", .float (Metrics.mean c.latencies))]

def ErrorRecord.toJson (r : ErrorRecord) : Json := .object [
  ("timestamp", .string r.timestamp.text),
  ("error_type", .string r.error.kind),
  ("component", .string r.error.component),
  ("message", .string r.error.message),
  ("request_id", .option .string r.requestId)]

def Metrics.toJson (m : Metrics) (now : Instant) : Json := .object [
  ("total_requests", .nat m.total),
  ("successful_requests", .nat m.successful),
  ("failed_requests", .nat m.failed),
  ("cache_hits", .nat m.cacheHits),
  ("cache_hit_rate", .float (m.rate m.cacheHits)),
  ("error_rate", .float (m.rate m.failed)),
  ("average_processing_time_ms", .float (Metrics.mean m.processingTimes)),
  ("stages", .object (Stage.all.map fun s => (s.component, (m.stages.get s).toJson))),
  ("last_updated", .string now.text)]

end LoginRisk
