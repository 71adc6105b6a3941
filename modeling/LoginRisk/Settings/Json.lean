import LoginRisk.Json.Decode
import LoginRisk.Settings.Basic

/-!
Settings as JSON values. Each section is a record whose absent fields take their defaults; names that
are not known are passed over.
-/

namespace LoginRisk

open Json (Decoder Fields)
open Json.Decode (bool string nat uint64 int64 float option)

namespace ServiceSettings

def fieldNames : List String := [
    "max_processing_time_ms", "credential_timeout_ms", "embedding_timeout_ms",
    "anomaly_timeout_ms", "threat_intel_timeout_ms", "enable_credential_analysis",
    "enable_embedding_analysis", "enable_anomaly_detection", "enable_threat_intelligence",
    "fallback_risk_score"]

def ofJson : Decoder ServiceSettings := fun j => do
  let f ← Fields.of fieldNames j
  let d : ServiceSettings := {}
  return {
    maxProcessingMs := ← f.withDefault "max_processing_time_ms" (nat 64) d.maxProcessingMs
    credentialTimeoutMs := ← f.withDefault "credential_timeout_ms" (nat 64) d.credentialTimeoutMs
    embeddingTimeoutMs := ← f.withDefault "embedding_timeout_ms" (nat 64) d.embeddingTimeoutMs
    anomalyTimeoutMs := ← f.withDefault "anomaly_timeout_ms" (nat 64) d.anomalyTimeoutMs
    threatTimeoutMs := ← f.withDefault "threat_intel_timeout_ms" (nat 64) d.threatTimeoutMs
    enableCredential := ← f.withDefault "enable_credential_analysis" bool d.enableCredential
    enableEmbedding := ← f.withDefault "enable_embedding_analysis" bool d.enableEmbedding
    enableAnomaly := ← f.withDefault "enable_anomaly_detection" bool d.enableAnomaly
    enableThreat := ← f.withDefault "enable_threat_intelligence" bool d.enableThreat
    fallbackScore := ← f.withDefault "fallback_risk_score" float d.fallbackScore }

def toJson (s : ServiceSettings) : Json := .object [
  ("max_processing_time_ms", .nat s.maxProcessingMs),
  ("credential_timeout_ms", .nat s.credentialTimeoutMs),
  ("embedding_timeout_ms", .nat s.embeddingTimeoutMs),
  ("anomaly_timeout_ms", .nat s.anomalyTimeoutMs),
  ("threat_intel_timeout_ms", .nat s.threatTimeoutMs),
  ("enable_credential_analysis", .bool s.enableCredential),
  ("enable_embedding_analysis", .bool s.enableEmbedding),
  ("enable_anomaly_detection", .bool s.enableAnomaly),
  ("enable_threat_intelligence", .bool s.enableThreat),
  ("fallback_risk_score", .float s.fallbackScore)]

end ServiceSettings

namespace CacheSettings

def fieldNames : List String := [
    "enabled", "capacity", "ttl_secs", "time_bucket_secs", "key_secret"]

def ofJson : Decoder CacheSettings := fun j => do
  let f ← Fields.of fieldNames j
  let d : CacheSettings := {}
  return {
    enabled := ← f.withDefault "enabled" bool d.enabled
    capacity := ← f.withDefault "capacity" (nat 64) d.capacity
    ttlSeconds := ← f.withDefault "ttl_secs" (nat 64) d.ttlSeconds
    bucketSeconds := ← f.withDefault "time_bucket_secs" uint64 d.bucketSeconds
    keySecret := ← f.withDefault "key_secret" string d.keySecret }

def toJson (s : CacheSettings) : Json := .object [
  ("enabled", .bool s.enabled),
  ("capacity", .nat s.capacity),
  ("ttl_secs", .nat s.ttlSeconds),
  ("time_bucket_secs", .nat s.bucketSeconds.toNat),
  ("key_secret", .string s.keySecret)]

end CacheSettings

namespace ScoringSettings

def fieldNames : List String := [
    "credential_similarity_weight", "credential_similarity_threshold",
    "suspicious_pattern_weight", "attack_similarity_weight", "outlier_weight",
    "time_deviation_weight", "location_deviation_weight", "device_deviation_weight",
    "frequency_weight", "ip_reputation_weight", "known_pattern_weight", "feedback_band_low",
    "feedback_band_high", "min_history_samples", "fallback_confidence_penalty"]

def ofJson : Decoder ScoringSettings := fun j => do
  let f ← Fields.of fieldNames j
  let d : ScoringSettings := {}
  return {
    credentialSimilarityWeight := ← f.withDefault "credential_similarity_weight" float d.credentialSimilarityWeight
    credentialSimilarityThreshold := ← f.withDefault "credential_similarity_threshold" float d.credentialSimilarityThreshold
    suspiciousPatternWeight := ← f.withDefault "suspicious_pattern_weight" float d.suspiciousPatternWeight
    attackSimilarityWeight := ← f.withDefault "attack_similarity_weight" float d.attackSimilarityWeight
    outlierWeight := ← f.withDefault "outlier_weight" float d.outlierWeight
    timeDeviationWeight := ← f.withDefault "time_deviation_weight" float d.timeDeviationWeight
    locationDeviationWeight := ← f.withDefault "location_deviation_weight" float d.locationDeviationWeight
    deviceDeviationWeight := ← f.withDefault "device_deviation_weight" float d.deviceDeviationWeight
    frequencyWeight := ← f.withDefault "frequency_weight" float d.frequencyWeight
    ipReputationWeight := ← f.withDefault "ip_reputation_weight" float d.ipReputationWeight
    knownPatternWeight := ← f.withDefault "known_pattern_weight" float d.knownPatternWeight
    feedbackBandLow := ← f.withDefault "feedback_band_low" float d.feedbackBandLow
    feedbackBandHigh := ← f.withDefault "feedback_band_high" float d.feedbackBandHigh
    minHistorySamples := ← f.withDefault "min_history_samples" (nat 32) d.minHistorySamples
    fallbackConfidencePenalty := ← f.withDefault "fallback_confidence_penalty" float d.fallbackConfidencePenalty }

def toJson (s : ScoringSettings) : Json := .object [
  ("credential_similarity_weight", .float s.credentialSimilarityWeight),
  ("credential_similarity_threshold", .float s.credentialSimilarityThreshold),
  ("suspicious_pattern_weight", .float s.suspiciousPatternWeight),
  ("attack_similarity_weight", .float s.attackSimilarityWeight),
  ("outlier_weight", .float s.outlierWeight),
  ("time_deviation_weight", .float s.timeDeviationWeight),
  ("location_deviation_weight", .float s.locationDeviationWeight),
  ("device_deviation_weight", .float s.deviceDeviationWeight),
  ("frequency_weight", .float s.frequencyWeight),
  ("ip_reputation_weight", .float s.ipReputationWeight),
  ("known_pattern_weight", .float s.knownPatternWeight),
  ("feedback_band_low", .float s.feedbackBandLow),
  ("feedback_band_high", .float s.feedbackBandHigh),
  ("min_history_samples", .nat s.minHistorySamples),
  ("fallback_confidence_penalty", .float s.fallbackConfidencePenalty)]

end ScoringSettings

namespace EmbeddingSettings

def fieldNames : List String := [
    "dimension", "cold_start_outlier_score", "cluster_threshold"]

def ofJson : Decoder EmbeddingSettings := fun j => do
  let f ← Fields.of fieldNames j
  let d : EmbeddingSettings := {}
  return {
    dimension := ← f.withDefault "dimension" (nat 64) d.dimension
    coldStartOutlierScore := ← f.withDefault "cold_start_outlier_score" float d.coldStartOutlierScore
    clusterThreshold := ← f.withDefault "cluster_threshold" float d.clusterThreshold }

def toJson (s : EmbeddingSettings) : Json := .object [
  ("dimension", .nat s.dimension),
  ("cold_start_outlier_score", .float s.coldStartOutlierScore),
  ("cluster_threshold", .float s.clusterThreshold)]

end EmbeddingSettings

namespace AnomalySettings

def fieldNames : List String := [
    "frequency_window_secs", "ip_attempt_threshold", "user_attempt_threshold",
    "night_start_hour", "night_end_hour", "unknown_location_score", "new_country_score"]

def ofJson : Decoder AnomalySettings := fun j => do
  let f ← Fields.of fieldNames j
  let d : AnomalySettings := {}
  return {
    frequencyWindowSeconds := ← f.withDefault "frequency_window_secs" uint64 d.frequencyWindowSeconds
    ipAttemptThreshold := ← f.withDefault "ip_attempt_threshold" (nat 64) d.ipAttemptThreshold
    userAttemptThreshold := ← f.withDefault "user_attempt_threshold" (nat 64) d.userAttemptThreshold
    nightStartHour := ← f.withDefault "night_start_hour" (nat 32) d.nightStartHour
    nightEndHour := ← f.withDefault "night_end_hour" (nat 32) d.nightEndHour
    unknownLocationScore := ← f.withDefault "unknown_location_score" float d.unknownLocationScore
    newCountryScore := ← f.withDefault "new_country_score" float d.newCountryScore }

def toJson (s : AnomalySettings) : Json := .object [
  ("frequency_window_secs", .nat s.frequencyWindowSeconds.toNat),
  ("ip_attempt_threshold", .nat s.ipAttemptThreshold),
  ("user_attempt_threshold", .nat s.userAttemptThreshold),
  ("night_start_hour", .nat s.nightStartHour),
  ("night_end_hour", .nat s.nightEndHour),
  ("unknown_location_score", .float s.unknownLocationScore),
  ("new_country_score", .float s.newCountryScore)]

end AnomalySettings

namespace ThreatSettings

def fieldNames : List String := [
    "tor_detection", "tor_score", "vpn_score", "indicators_file", "window_secs",
    "brute_force_attempts", "stuffing_accounts_threshold", "distributed_ip_threshold"]

def ofJson : Decoder ThreatSettings := fun j => do
  let f ← Fields.of fieldNames j
  let d : ThreatSettings := {}
  return {
    torDetection := ← f.withDefault "tor_detection" bool d.torDetection
    torScore := ← f.withDefault "tor_score" float d.torScore
    vpnScore := ← f.withDefault "vpn_score" float d.vpnScore
    indicatorsFile := ← f.withDefault "indicators_file" (option string) d.indicatorsFile
    windowSeconds := ← f.withDefault "window_secs" uint64 d.windowSeconds
    bruteForceAttempts := ← f.withDefault "brute_force_attempts" (nat 64) d.bruteForceAttempts
    stuffingAccountsThreshold := ← f.withDefault "stuffing_accounts_threshold" (nat 64) d.stuffingAccountsThreshold
    distributedIpThreshold := ← f.withDefault "distributed_ip_threshold" (nat 64) d.distributedIpThreshold }

def toJson (s : ThreatSettings) : Json := .object [
  ("tor_detection", .bool s.torDetection),
  ("tor_score", .float s.torScore),
  ("vpn_score", .float s.vpnScore),
  ("indicators_file", .option .string s.indicatorsFile),
  ("window_secs", .nat s.windowSeconds.toNat),
  ("brute_force_attempts", .nat s.bruteForceAttempts),
  ("stuffing_accounts_threshold", .nat s.stuffingAccountsThreshold),
  ("distributed_ip_threshold", .nat s.distributedIpThreshold)]

end ThreatSettings

namespace LearningSettings

def fieldNames : List String := [
    "enabled", "queue_capacity", "bias_step", "max_user_bias", "min_feedback_confidence",
    "max_known_locations", "max_known_devices", "max_login_history",
    "max_typical_embeddings", "outcome_history_days", "drain_timeout_secs"]

def ofJson : Decoder LearningSettings := fun j => do
  let f ← Fields.of fieldNames j
  let d : LearningSettings := {}
  return {
    enabled := ← f.withDefault "enabled" bool d.enabled
    queueCapacity := ← f.withDefault "queue_capacity" (nat 64) d.queueCapacity
    biasStep := ← f.withDefault "bias_step" float d.biasStep
    maxUserBias := ← f.withDefault "max_user_bias" float d.maxUserBias
    minFeedbackConfidence := ← f.withDefault "min_feedback_confidence" float d.minFeedbackConfidence
    maxKnownLocations := ← f.withDefault "max_known_locations" (nat 64) d.maxKnownLocations
    maxKnownDevices := ← f.withDefault "max_known_devices" (nat 64) d.maxKnownDevices
    maxLoginHistory := ← f.withDefault "max_login_history" (nat 64) d.maxLoginHistory
    maxTypicalEmbeddings := ← f.withDefault "max_typical_embeddings" (nat 64) d.maxTypicalEmbeddings
    outcomeHistoryDays := ← f.withDefault "outcome_history_days" int64 d.outcomeHistoryDays
    drainTimeoutSeconds := ← f.withDefault "drain_timeout_secs" (nat 64) d.drainTimeoutSeconds }

def toJson (s : LearningSettings) : Json := .object [
  ("enabled", .bool s.enabled),
  ("queue_capacity", .nat s.queueCapacity),
  ("bias_step", .float s.biasStep),
  ("max_user_bias", .float s.maxUserBias),
  ("min_feedback_confidence", .float s.minFeedbackConfidence),
  ("max_known_locations", .nat s.maxKnownLocations),
  ("max_known_devices", .nat s.maxKnownDevices),
  ("max_login_history", .nat s.maxLoginHistory),
  ("max_typical_embeddings", .nat s.maxTypicalEmbeddings),
  ("outcome_history_days", .int s.outcomeHistoryDays),
  ("drain_timeout_secs", .nat s.drainTimeoutSeconds)]

end LearningSettings

namespace HealthSettings

def fieldNames : List String := [
    "degraded_latency_ms", "unhealthy_after_failures"]

def ofJson : Decoder HealthSettings := fun j => do
  let f ← Fields.of fieldNames j
  let d : HealthSettings := {}
  return {
    degradedLatencyMs := ← f.withDefault "degraded_latency_ms" (nat 64) d.degradedLatencyMs
    unhealthyAfterFailures := ← f.withDefault "unhealthy_after_failures" (nat 32) d.unhealthyAfterFailures }

def toJson (s : HealthSettings) : Json := .object [
  ("degraded_latency_ms", .nat s.degradedLatencyMs),
  ("unhealthy_after_failures", .nat s.unhealthyAfterFailures)]

end HealthSettings

namespace MetricsSettings

def fieldNames : List String := [
    "processing_window", "error_history_size", "report_interval_secs",
    "cleanup_interval_secs"]

def ofJson : Decoder MetricsSettings := fun j => do
  let f ← Fields.of fieldNames j
  let d : MetricsSettings := {}
  return {
    processingWindow := ← f.withDefault "processing_window" (nat 64) d.processingWindow
    errorHistorySize := ← f.withDefault "error_history_size" (nat 64) d.errorHistorySize
    reportIntervalSeconds := ← f.withDefault "report_interval_secs" (nat 64) d.reportIntervalSeconds
    cleanupIntervalSeconds := ← f.withDefault "cleanup_interval_secs" (nat 64) d.cleanupIntervalSeconds }

def toJson (s : MetricsSettings) : Json := .object [
  ("processing_window", .nat s.processingWindow),
  ("error_history_size", .nat s.errorHistorySize),
  ("report_interval_secs", .nat s.reportIntervalSeconds),
  ("cleanup_interval_secs", .nat s.cleanupIntervalSeconds)]

end MetricsSettings

namespace StorageSettings

def fieldNames : List String := [
    "backend", "sqlite_path"]

def ofJson : Decoder StorageSettings := fun j => do
  let f ← Fields.of fieldNames j
  let d : StorageSettings := {}
  return {
    backend := ← f.withDefault "backend" string d.backend
    sqlitePath := ← f.withDefault "sqlite_path" string d.sqlitePath }

def toJson (s : StorageSettings) : Json := .object [
  ("backend", .string s.backend),
  ("sqlite_path", .string s.sqlitePath)]

end StorageSettings

namespace AlertingSettings

def fieldNames : List String := [
    "enabled", "webhook_url", "timeout_secs"]

def ofJson : Decoder AlertingSettings := fun j => do
  let f ← Fields.of fieldNames j
  let d : AlertingSettings := {}
  return {
    enabled := ← f.withDefault "enabled" bool d.enabled
    webhookUrl := ← f.withDefault "webhook_url" (option string) d.webhookUrl
    timeoutSeconds := ← f.withDefault "timeout_secs" (nat 64) d.timeoutSeconds }

def toJson (s : AlertingSettings) : Json := .object [
  ("enabled", .bool s.enabled),
  ("webhook_url", .option .string s.webhookUrl),
  ("timeout_secs", .nat s.timeoutSeconds)]

end AlertingSettings

namespace LoggingSettings

def fieldNames : List String := [
    "level", "file", "json"]

def ofJson : Decoder LoggingSettings := fun j => do
  let f ← Fields.of fieldNames j
  let d : LoggingSettings := {}
  return {
    level := ← f.withDefault "level" string d.level
    file := ← f.withDefault "file" string d.file
    json := ← f.withDefault "json" bool d.json }

def toJson (s : LoggingSettings) : Json := .object [
  ("level", .string s.level),
  ("file", .string s.file),
  ("json", .bool s.json)]

end LoggingSettings

namespace Settings

def sectionNames : List String := [
    "service", "cache", "scoring", "embedding", "anomaly", "threat_intel", "learning",
    "health", "metrics", "storage", "alerting", "logging"]

def ofJson : Decoder Settings := fun j => do
  let f ← Fields.of sectionNames j
  return {
    service := ← f.withDefault "service" ServiceSettings.ofJson {}
    cache := ← f.withDefault "cache" CacheSettings.ofJson {}
    scoring := ← f.withDefault "scoring" ScoringSettings.ofJson {}
    embedding := ← f.withDefault "embedding" EmbeddingSettings.ofJson {}
    anomaly := ← f.withDefault "anomaly" AnomalySettings.ofJson {}
    threat := ← f.withDefault "threat_intel" ThreatSettings.ofJson {}
    learning := ← f.withDefault "learning" LearningSettings.ofJson {}
    health := ← f.withDefault "health" HealthSettings.ofJson {}
    metrics := ← f.withDefault "metrics" MetricsSettings.ofJson {}
    storage := ← f.withDefault "storage" StorageSettings.ofJson {}
    alerting := ← f.withDefault "alerting" AlertingSettings.ofJson {}
    logging := ← f.withDefault "logging" LoggingSettings.ofJson {} }

def toJson (s : Settings) : Json := .object [
  ("service", s.service.toJson),
  ("cache", s.cache.toJson),
  ("scoring", s.scoring.toJson),
  ("embedding", s.embedding.toJson),
  ("anomaly", s.anomaly.toJson),
  ("threat_intel", s.threat.toJson),
  ("learning", s.learning.toJson),
  ("health", s.health.toJson),
  ("metrics", s.metrics.toJson),
  ("storage", s.storage.toJson),
  ("alerting", s.alerting.toJson),
  ("logging", s.logging.toJson)]

end Settings

end LoginRisk
