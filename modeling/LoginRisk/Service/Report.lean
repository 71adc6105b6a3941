import LoginRisk.Service.Basic

/-!
The health of a service as it is reported.
-/

namespace LoginRisk

structure HealthReport where
  overall : HealthStatus
  health : Health
  cacheSize : Nat
  pendingJobs : Nat
  metrics : Metrics
  timestamp : Instant

namespace HealthReport

def isHealthy (r : HealthReport) : Bool := r.overall = .healthy

def toJson (r : HealthReport) : Json := .object [
  ("overall_status", .string r.overall.name),
  ("components", r.health.toJson),
  ("cache_size", .nat r.cacheSize),
  ("pending_learning_jobs", .nat r.pendingJobs),
  ("processing_metrics", r.metrics.toJson r.timestamp),
  ("last_updated", .string r.timestamp.text)]

end HealthReport

namespace Service

variable {σ : Type}

def healthReport (now : Instant) (s : Service σ) : HealthReport :=
  { overall := s.pipeline.health.overall
    health := s.pipeline.health
    cacheSize := s.pipeline.cache.size
    pendingJobs := s.pending
    metrics := s.pipeline.metrics
    timestamp := now }

def errorHistory (limit : Nat) (s : Service σ) : List ErrorRecord :=
  s.pipeline.metrics.errorHistory limit

end Service

end LoginRisk
