import LoginRisk.Findings.Basic
import LoginRisk.Settings.Basic

/-!
How far an assessment can be relied on, given which stages completed.
-/

namespace LoginRisk

structure FallbackMask where
  credential : Bool := false
  embedding : Bool := false
  behavior : Bool := false
  threat : Bool := false
  deriving DecidableEq, Repr

def FallbackMask.count (m : FallbackMask) : Nat :=
  [m.credential, m.embedding, m.behavior, m.threat].countP id

namespace Decision

/-- The mean trust in the stages, less a penalty for each fallback. -/
def confidence (s : ScoringSettings) (m : FallbackMask) (b : BehaviorFindings) : Float :=
  let credential := if m.credential then 0.3 else 0.9
  let embedding := if m.embedding then 0.2 else 0.9
  let behavior :=
    if m.behavior then 0.3 else if s.minHistorySamples ≤ b.historySamples then 0.85 else 0.5
  let threat := if m.threat then 0.3 else 0.8
  let mean := (credential + embedding + behavior + threat) / 4.0
  let share := Float.ofNat m.count / 4.0
  clampUnit (mean * (1.0 - s.fallbackConfidencePenalty * share))

end Decision

end LoginRisk
