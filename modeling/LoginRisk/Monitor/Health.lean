import LoginRisk.Assoc
import LoginRisk.Json.Basic
import LoginRisk.Risk.Stage
import LoginRisk.Settings.Basic
import LoginRisk.Time.Rfc3339

/-!
The health of each component, derived from how its invocations went.
-/

namespace LoginRisk

inductive HealthStatus where
  | healthy | degraded | unhealthy | unknown
  deriving DecidableEq, Repr

namespace HealthStatus

def name : HealthStatus → String
  | .healthy => "healthy"
  | .degraded => "degraded"
  | .unhealthy => "unhealthy"
  | .unknown => "unknown"

def all : List HealthStatus := [.healthy, .degraded, .unhealthy, .unknown]

def severity : HealthStatus → Nat
  | .healthy => 0
  | .unknown => 1
  | .degraded => 2
  | .unhealthy => 3

def worse (a b : HealthStatus) : HealthStatus := if a.severity ≤ b.severity then b else a

/-- The worst of some statuses, unknown when there is none. -/
def worst : List HealthStatus → HealthStatus
  | [] => .unknown
  | s :: rest => rest.foldl worse s

end HealthStatus

structure ComponentHealth where
  status : HealthStatus := .unknown
  lastCheck : Option Instant := none
  responseMs : Float := 0.0
  errorCount : Nat := 0
  consecutiveFailures : Nat := 0
  lastError : Option String := none

inductive Observation where
  | success (elapsedMs : Float)
  | failure (elapsedMs : Float) (message : String)
  | disabled

namespace ComponentHealth

def observe (s : HealthSettings) (now : Instant) (c : ComponentHealth) : Observation → ComponentHealth
  | .success elapsedMs =>
    { c with
      status := if elapsedMs ≤ Float.ofNat s.degradedLatencyMs then .healthy else .degraded
      consecutiveFailures := 0
      responseMs := elapsedMs
      lastCheck := some now }
  | .failure elapsedMs message =>
    { status :=
        if max s.unhealthyAfterFailures 1 ≤ c.consecutiveFailures + 1 then .unhealthy else .degraded
      lastCheck := some now
      responseMs := elapsedMs
      errorCount := c.errorCount + 1
      consecutiveFailures := c.consecutiveFailures + 1
      lastError := some message }
  | .disabled => { c with status := .unknown, lastCheck := some now }

end ComponentHealth

/-- The components in ascending order of their names. -/
structure Health where
  components : List (String × ComponentHealth)

namespace Health

def ofNames (names : List String) : Health :=
  ⟨Assoc.sorted (names.map fun name => (name, {}))⟩

/-- Adds an observation about a component, which need not be known before. -/
def observe (s : HealthSettings) (now : Instant) (h : Health) (name : String) (o : Observation) :
    Health :=
  let component := (h.components.lookup name).getD {}
  ⟨Assoc.putSorted name (component.observe s now o) h.components⟩

/-- What the report of a stage says about its component. After a failure of the whole pipeline the
stage may never have run, and nothing is learned. -/
def observationOf (r : StageReport) : Option Observation :=
  match r.fallback with
  | none => some (.success r.elapsedMs)
  | some .disabled => some .disabled
  | some .pipelineFailure => none
  | some reason => some (.failure r.elapsedMs reason.text)

def observeReport (s : HealthSettings) (now : Instant) (h : Health) (r : StageReport) : Health :=
  match observationOf r with
  | none => h
  | some o => h.observe s now r.stage.component o

def overall (h : Health) : HealthStatus := .worst (h.components.map fun c => c.2.status)

end Health

def ComponentHealth.toJson (name : String) (c : ComponentHealth) : Json := .object [
  ("name", .string name),
  ("status", .string c.status.name),
  ("last_check", .option (fun t => .string t.text) c.lastCheck),
  ("response_time_ms", .float c.responseMs),
  ("error_count", .nat c.errorCount),
  ("consecutive_failures", .nat c.consecutiveFailures),
  ("last_error", .option .string c.lastError)]

def Health.toJson (h : Health) : Json :=
  .object (h.components.map fun c => (c.1, c.2.toJson c.1))

end LoginRisk
