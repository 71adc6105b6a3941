import LoginRisk.Assessment.Basic
import LoginRisk.Findings.Json
import LoginRisk.Risk.Json

/-!
Assessments as JSON values.
-/

namespace LoginRisk.Assessment

open Json (Decoder Fields)
open Json.Decode (bool string float instant list)

def fieldNames : List String := [
  "request_id", "risk_score", "risk_level", "should_block", "requires_2fa", "recommended_actions",
  "confidence_score", "user_feedback_required", "nlp_features", "embedding_analysis",
  "behavioral_analysis", "threat_analysis", "stage_reports", "processing_time_ms",
  "analysis_timestamp"]

def ofJson : Decoder Assessment := fun j => do
  let f ← Fields.of fieldNames j
  return {
    requestId := ← f.required "request_id" string
    score := ← f.required "risk_score" float
    level := ← f.required "risk_level" RiskLevel.ofJson
    shouldBlock := ← f.required "should_block" bool
    requiresSecondFactor := ← f.required "requires_2fa" bool
    actions := ← f.required "recommended_actions" (list Action.ofJson)
    confidence := ← f.required "confidence_score" float
    feedbackRequired := ← f.required "user_feedback_required" bool
    credential := ← f.required "nlp_features" CredentialFindings.ofJson
    embedding := ← f.required "embedding_analysis" EmbeddingFindings.ofJson
    behavior := ← f.required "behavioral_analysis" BehaviorFindings.ofJson
    threat := ← f.required "threat_analysis" ThreatFindings.ofJson
    reports := ← f.required "stage_reports" (list StageReport.ofJson)
    processingMs := ← f.required "processing_time_ms" float
    timestamp := ← f.required "analysis_timestamp" instant }

def toJson (r : Assessment) : Json := .object [
  ("request_id", .string r.requestId),
  ("risk_score", .float r.score),
  ("risk_level", .string r.level.name),
  ("should_block", .bool r.shouldBlock),
  ("requires_2fa", .bool r.requiresSecondFactor),
  ("recommended_actions", .array (r.actions.map Action.toJson)),
  ("confidence_score", .float r.confidence),
  ("user_feedback_required", .bool r.feedbackRequired),
  ("nlp_features", r.credential.toJson),
  ("embedding_analysis", r.embedding.toJson),
  ("behavioral_analysis", r.behavior.toJson),
  ("threat_analysis", r.threat.toJson),
  ("stage_reports", .array (r.reports.map StageReport.toJson)),
  ("processing_time_ms", .float r.processingMs),
  ("analysis_timestamp", .string r.timestamp.text)]

end LoginRisk.Assessment
