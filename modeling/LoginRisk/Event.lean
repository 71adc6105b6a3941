import LoginRisk.Assessment.Basic
import LoginRisk.Attempt.Basic
import LoginRisk.Json.Basic
import LoginRisk.Time.Rfc3339

/-!
Events that follow from an assessment and are handed to whoever watches the service.
-/

namespace LoginRisk

inductive SecurityEvent where
  | loginBlocked (requestId clientAddress emailDomain : String) (score : Float)
      (patterns : List String) (timestamp : Instant)
  | feedbackRequested (requestId user : String) (score : Float) (level : RiskLevel)
      (timestamp : Instant)

namespace SecurityEvent

def name : SecurityEvent → String
  | .loginBlocked .. => "login_blocked"
  | .feedbackRequested .. => "feedback_requested"

def ofAssessment (a : Attempt) (r : Assessment) (now : Instant) : List SecurityEvent :=
  (if r.shouldBlock then
    [.loginBlocked r.requestId a.clientAddress.text (Text.toLower a.emailDomain) r.score
      r.threat.knownPatterns now]
  else []) ++
  (if r.feedbackRequired then [.feedbackRequested r.requestId a.profileKey r.score r.level now]
  else [])

def toJson (e : SecurityEvent) : Json :=
  match e with
  | .loginBlocked requestId clientAddress emailDomain score patterns timestamp => .object [
      ("event", .string e.name),
      ("request_id", .string requestId),
      ("client_ip", .string clientAddress),
      ("email_domain", .string emailDomain),
      ("risk_score", .float score),
      ("attack_patterns", .strings patterns),
      ("timestamp", .string timestamp.text)]
  | .feedbackRequested requestId user score level timestamp => .object [
      ("event", .string e.name),
      ("request_id", .string requestId),
      ("user", .string user),
      ("risk_score", .float score),
      ("risk_level", .string level.name),
      ("timestamp", .string timestamp.text)]

end SecurityEvent

end LoginRisk
