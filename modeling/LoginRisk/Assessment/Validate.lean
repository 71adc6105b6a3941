import LoginRisk.Assessment.Basic
import LoginRisk.Number.Decimal

/-!
The rules that every assessment keeps. They are checked in a fixed order before an assessment is
answered and again when it comes out of the cache.
-/

namespace LoginRisk

inductive AssessmentFault where
  | outOfRange (name : String) (value : Float)
  | biasNotFinite (value : Float)
  | levelMismatch (level : RiskLevel) (score : Float)
  | blockMismatch
  | noActions

def AssessmentFault.message : AssessmentFault → String
  | .outOfRange name value => name ++ " out of range: " ++ Number.plain value
  | .biasNotFinite value => "calibration_bias not finite: " ++ Number.plain value
  | .levelMismatch level score =>
    "risk_level " ++ level.name ++ " does not match score " ++ Number.plain score
  | .blockMismatch => "should_block inconsistent with risk level"
  | .noActions => "no recommended actions"

def isUnit (x : Float) : Bool := x.isFinite && 0.0 ≤ x && x ≤ 1.0

namespace Assessment

/-- The unit scores that are checked before the bias, with their names. -/
def leadingScores (r : Assessment) : List (String × Float) := [
  ("risk_score", r.score),
  ("confidence_score", r.confidence),
  ("credential_similarity", r.credential.similarity),
  ("email_unique_token_ratio", r.credential.email.uniqueTokenRatio),
  ("credential_unique_token_ratio", r.credential.credential.uniqueTokenRatio),
  ("similarity_to_user_profile", r.embedding.profileSimilarity),
  ("similarity_to_attack_patterns", r.embedding.attackSimilarity),
  ("outlier_score", r.embedding.outlierScore),
  ("time_deviation_score", r.behavior.timeDeviation),
  ("location_deviation_score", r.behavior.locationDeviation),
  ("device_deviation_score", r.behavior.deviceDeviation),
  ("login_frequency_anomaly", r.behavior.frequencyAnomaly),
  ("session_duration_anomaly", r.behavior.sessionAnomaly),
  ("success_rate_last_30_days", r.behavior.successRate)]

def trailingScores (r : Assessment) : List (String × Float) := [
  ("ip_reputation_score", r.threat.ipReputation),
  ("time_pattern_score", r.threat.bruteForce.timePattern)]

def firstOutOfRange (scores : List (String × Float)) : Option AssessmentFault :=
  (scores.find? fun s => !isUnit s.2).map fun s => .outOfRange s.1 s.2

/-- The first rule that an assessment breaks, `none` when it keeps all of them. -/
def firstFault (r : Assessment) : Option AssessmentFault :=
  (firstOutOfRange r.leadingScores).orElse fun _ =>
  (if r.behavior.calibrationBias.isFinite then none
    else some (.biasNotFinite r.behavior.calibrationBias)).orElse fun _ =>
  (firstOutOfRange r.trailingScores).orElse fun _ =>
  if RiskLevel.ofScore r.score ≠ r.level then some (.levelMismatch r.level r.score)
  else if r.shouldBlock ≠ (r.level = .critical) then some .blockMismatch
  else if r.actions.isEmpty then some .noActions
  else none

def isValid (r : Assessment) : Bool := r.firstFault.isNone

end Assessment

end LoginRisk
