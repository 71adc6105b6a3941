import LoginRisk.Monitor.Health
import LoginRisk.Pipeline.Error
import LoginRisk.Risk.Json

/-!
Errors of the pipeline and health statuses from JSON values.
-/

namespace LoginRisk

open Json (Decoder Fields)
open Json.Decode (string nat)

def HealthStatus.ofJson : Decoder HealthStatus :=
  Json.Decode.name (HealthStatus.all.map fun s => (s.name, s))

def PipelineError.ofJson : Decoder PipelineError := fun j => do
  let f ← Fields.of ["kind", "stage", "budget_ms", "message"] j
  let kind ← f.required "kind" string
  if kind = "component_timeout" then
    return .componentTimeout (← f.required "stage" Stage.ofJson) (← f.required "budget_ms" (nat 64))
  else if kind = "component_failure" then
    return .componentFailure (← f.required "stage" Stage.ofJson) (← f.required "message" string)
  else if kind = "aggregation_failure" then return .aggregation (← f.required "message" string)
  else if kind = "cache_corruption" then return .cacheCorruption (← f.required "message" string)
  else .error (.expected "a kind of error")

end LoginRisk
