import LoginRisk.Number.Decimal
import LoginRisk.Risk.Action
import LoginRisk.Risk.Level
import LoginRisk.Settings.Basic

/-!
What to do about an attempt of a given score.
-/

namespace LoginRisk

structure Decision where
  level : RiskLevel
  shouldBlock : Bool
  requiresSecondFactor : Bool
  feedbackRequired : Bool
  actions : List Action

namespace Decision

def needsFeedback (s : ScoringSettings) (level : RiskLevel) (score : Float) : Bool :=
  (level = .medium || level = .high) && s.feedbackBandLow ≤ score && score ≤ s.feedbackBandHigh

def allow : Action := .make .allow 5 "Allow login"

def monitor (hours : Nat) : Action :=
  (Action.make .monitor 3 "Monitor session for unusual activity").withParameter "duration_hours"
    (toString hours)

def levelActions (score : String) : RiskLevel → List Action
  | .low => [allow]
  | .medium => [allow, monitor 24]
  | .high =>
    [(Action.make .requireSecondFactor 2
        "Require second factor before completing login").withParameter "risk_score" score,
      monitor 72]
  | .critical => [(Action.make .block 1 "Block login attempt").withParameter "risk_score" score]

/-- All responses, the most urgent first. -/
def allActions (level : RiskLevel) (score : String) (anonymized feedback : Bool) : List Action :=
  (levelActions score level ++
    (if anonymized then
      [(Action.make .alert 2 "Login through anonymizing network").withParameter "risk_level" level.name]
    else []) ++
    (if feedback then
      [(Action.make .requestFeedback 4 "Ask the user to confirm this login").withParameter
        "risk_score" score]
    else [])).mergeSort fun a b => a.priority ≤ b.priority

/-- The decision about a score. `anonymized` says that the attempt hides where it comes from. -/
def decide (s : ScoringSettings) (score : Float) (anonymized : Bool) : Decision :=
  let level := RiskLevel.ofScore score
  let feedback := needsFeedback s level score
  { level
    shouldBlock := level = .critical
    requiresSecondFactor := level = .high
    feedbackRequired := feedback
    actions := allActions level (Number.fixed 3 (Number.ofFloat score)) anonymized feedback }

end Decision

end LoginRisk
