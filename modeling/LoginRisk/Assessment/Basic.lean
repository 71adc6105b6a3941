import LoginRisk.Findings.Basic
import LoginRisk.Risk.Action
import LoginRisk.Risk.Stage
import LoginRisk.Time.Instant

/-!
The answer about one attempt: its score and level, what to do about it, and the findings behind them.
-/

namespace LoginRisk

structure Assessment where
  requestId : String
  score : Float
  level : RiskLevel
  shouldBlock : Bool
  requiresSecondFactor : Bool
  actions : List Action
  confidence : Float
  feedbackRequired : Bool
  credential : CredentialFindings
  embedding : EmbeddingFindings
  behavior : BehaviorFindings
  threat : ThreatFindings
  reports : List StageReport
  processingMs : Float
  timestamp : Instant

namespace Assessment

def fallbackCount (r : Assessment) : Nat := r.reports.countP StageReport.isFallback

def hasAction (r : Assessment) (kind : ActionKind) : Bool := r.actions.any (·.kind = kind)

end Assessment

end LoginRisk
