import LoginRisk.Findings.Basic
import LoginRisk.Json.Decode

/-!
Findings as JSON values. The 32-bit numbers of a vector are written as the 64-bit numbers of the same
value.
-/

namespace LoginRisk

open Json (Decoder Fields)
open Json.Decode (bool string nat float float32)

namespace FieldFeatures

def ofJson : Decoder FieldFeatures := fun j => do
  let f ← Fields.of ["token_count", "unique_token_ratio", "entropy_score", "language",
    "suspicious_patterns", "pattern_types"] j
  return {
    tokenCount := ← f.required "token_count" (nat 64)
    uniqueTokenRatio := ← f.required "unique_token_ratio" float
    entropy := ← f.required "entropy_score" float
    language := ← f.required "language" string
    suspicious := ← f.required "suspicious_patterns" bool
    patterns := ← f.required "pattern_types" (Json.Decode.list string) }

def toJson (f : FieldFeatures) : Json := .object [
  ("token_count", .nat f.tokenCount),
  ("unique_token_ratio", .float f.uniqueTokenRatio),
  ("entropy_score", .float f.entropy),
  ("language", .string f.language),
  ("suspicious_patterns", .bool f.suspicious),
  ("pattern_types", .strings f.patterns)]

end FieldFeatures

namespace CredentialFindings

def ofJson : Decoder CredentialFindings := fun j => do
  let f ← Fields.of ["email_features", "credential_features", "credential_similarity",
    "language_consistency", "processing_time_ms", "used_fallback", "model_version"] j
  return {
    email := ← f.required "email_features" FieldFeatures.ofJson
    credential := ← f.required "credential_features" FieldFeatures.ofJson
    similarity := ← f.required "credential_similarity" float
    languageConsistency := ← f.required "language_consistency" bool
    processingMs := ← f.required "processing_time_ms" float
    usedFallback := ← f.required "used_fallback" bool
    modelVersion := ← f.required "model_version" string }

def toJson (c : CredentialFindings) : Json := .object [
  ("email_features", c.email.toJson),
  ("credential_features", c.credential.toJson),
  ("credential_similarity", .float c.similarity),
  ("language_consistency", .bool c.languageConsistency),
  ("processing_time_ms", .float c.processingMs),
  ("used_fallback", .bool c.usedFallback),
  ("model_version", .string c.modelVersion)]

end CredentialFindings

namespace EmbeddingFindings

def ofJson : Decoder EmbeddingFindings := fun j => do
  let f ← Fields.of ["embedding_vector", "similarity_to_user_profile",
    "similarity_to_attack_patterns", "cluster_assignment", "outlier_score", "processing_time_ms",
    "model_version", "used_fallback"] j
  return {
    vector := ← f.required "embedding_vector" (Json.Decode.list float32)
    profileSimilarity := ← f.required "similarity_to_user_profile" float
    attackSimilarity := ← f.required "similarity_to_attack_patterns" float
    cluster := ← f.nullable "cluster_assignment" string
    outlierScore := ← f.required "outlier_score" float
    processingMs := ← f.required "processing_time_ms" float
    modelVersion := ← f.required "model_version" string
    usedFallback := ← f.required "used_fallback" bool }

def toJson (e : EmbeddingFindings) : Json := .object [
  ("embedding_vector", .array (e.vector.map fun x => .float (Number.widen x))),
  ("similarity_to_user_profile", .float e.profileSimilarity),
  ("similarity_to_attack_patterns", .float e.attackSimilarity),
  ("cluster_assignment", .option .string e.cluster),
  ("outlier_score", .float e.outlierScore),
  ("processing_time_ms", .float e.processingMs),
  ("model_version", .string e.modelVersion),
  ("used_fallback", .bool e.usedFallback)]

end EmbeddingFindings

namespace BehaviorFindings

def ofJson : Decoder BehaviorFindings := fun j => do
  let f ← Fields.of ["is_usual_time", "time_deviation_score", "is_usual_location",
    "location_deviation_score", "is_usual_device", "device_deviation_score",
    "login_frequency_anomaly", "session_duration_anomaly", "success_rate_last_30_days",
    "failed_attempts_pattern", "history_samples", "calibration_bias", "used_fallback"] j
  return {
    isUsualTime := ← f.required "is_usual_time" bool
    timeDeviation := ← f.required "time_deviation_score" float
    isUsualLocation := ← f.required "is_usual_location" bool
    locationDeviation := ← f.required "location_deviation_score" float
    isUsualDevice := ← f.required "is_usual_device" bool
    deviceDeviation := ← f.required "device_deviation_score" float
    frequencyAnomaly := ← f.required "login_frequency_anomaly" float
    sessionAnomaly := ← f.required "session_duration_anomaly" float
    successRate := ← f.required "success_rate_last_30_days" float
    failurePattern := ← f.required "failed_attempts_pattern" (Json.Decode.map (nat 32))
    historySamples := ← f.required "history_samples" (nat 32)
    calibrationBias := ← f.required "calibration_bias" float
    usedFallback := ← f.required "used_fallback" bool }

def toJson (b : BehaviorFindings) : Json := .object [
  ("is_usual_time", .bool b.isUsualTime),
  ("time_deviation_score", .float b.timeDeviation),
  ("is_usual_location", .bool b.isUsualLocation),
  ("location_deviation_score", .float b.locationDeviation),
  ("is_usual_device", .bool b.isUsualDevice),
  ("device_deviation_score", .float b.deviceDeviation),
  ("login_frequency_anomaly", .float b.frequencyAnomaly),
  ("session_duration_anomaly", .float b.sessionAnomaly),
  ("success_rate_last_30_days", .float b.successRate),
  ("failed_attempts_pattern", .object (b.failurePattern.map fun p => (p.1, .nat p.2))),
  ("history_samples", .nat b.historySamples),
  ("calibration_bias", .float b.calibrationBias),
  ("used_fallback", .bool b.usedFallback)]

end BehaviorFindings

namespace BruteForceSigns

def ofJson : Decoder BruteForceSigns := fun j => do
  let f ← Fields.of ["rapid_attempts", "multiple_ips", "time_pattern_score"] j
  return {
    rapidAttempts := ← f.required "rapid_attempts" bool
    multipleIps := ← f.required "multiple_ips" bool
    timePattern := ← f.required "time_pattern_score" float }

def toJson (s : BruteForceSigns) : Json := .object [
  ("rapid_attempts", .bool s.rapidAttempts),
  ("multiple_ips", .bool s.multipleIps),
  ("time_pattern_score", .float s.timePattern)]

end BruteForceSigns

namespace StuffingSigns

def ofJson : Decoder StuffingSigns := fun j => do
  let f ← Fields.of ["password_reuse", "multiple_accounts", "common_passwords"] j
  return {
    passwordReuse := ← f.required "password_reuse" bool
    multipleAccounts := ← f.required "multiple_accounts" bool
    commonPasswords := ← f.required "common_passwords" bool }

def toJson (s : StuffingSigns) : Json := .object [
  ("password_reuse", .bool s.passwordReuse),
  ("multiple_accounts", .bool s.multipleAccounts),
  ("common_passwords", .bool s.commonPasswords)]

end StuffingSigns

namespace TakeoverSigns

def ofJson : Decoder TakeoverSigns := fun j => do
  let f ← Fields.of ["location_change", "device_change", "behavior_change"] j
  return {
    locationChange := ← f.required "location_change" bool
    deviceChange := ← f.required "device_change" bool
    behaviorChange := ← f.required "behavior_change" bool }

def toJson (s : TakeoverSigns) : Json := .object [
  ("location_change", .bool s.locationChange),
  ("device_change", .bool s.deviceChange),
  ("behavior_change", .bool s.behaviorChange)]

end TakeoverSigns

namespace ThreatFindings

def ofJson : Decoder ThreatFindings := fun j => do
  let f ← Fields.of ["ip_reputation_score", "known_attack_patterns", "threat_actor_indicators",
    "brute_force_indicators", "credential_stuffing_indicators", "account_takeover_indicators",
    "similar_attacks_detected", "attack_campaign_correlation", "used_fallback"] j
  return {
    ipReputation := ← f.required "ip_reputation_score" float
    knownPatterns := ← f.required "known_attack_patterns" (Json.Decode.list string)
    actors := ← f.required "threat_actor_indicators" (Json.Decode.list string)
    bruteForce := ← f.required "brute_force_indicators" BruteForceSigns.ofJson
    stuffing := ← f.required "credential_stuffing_indicators" StuffingSigns.ofJson
    takeover := ← f.required "account_takeover_indicators" TakeoverSigns.ofJson
    similarAttacks := ← f.required "similar_attacks_detected" (nat 32)
    campaign := ← f.nullable "attack_campaign_correlation" string
    usedFallback := ← f.required "used_fallback" bool }

def toJson (t : ThreatFindings) : Json := .object [
  ("ip_reputation_score", .float t.ipReputation),
  ("known_attack_patterns", .strings t.knownPatterns),
  ("threat_actor_indicators", .strings t.actors),
  ("brute_force_indicators", t.bruteForce.toJson),
  ("credential_stuffing_indicators", t.stuffing.toJson),
  ("account_takeover_indicators", t.takeover.toJson),
  ("similar_attacks_detected", .nat t.similarAttacks),
  ("attack_campaign_correlation", .option .string t.campaign),
  ("used_fallback", .bool t.usedFallback)]

end ThreatFindings

end LoginRisk
