/-!
The settings of the risk service, section by section. Every field has a default, so that a file
need only name what differs.
-/

namespace LoginRisk

/-- Time budgets of the stages, their switches, and the score to answer when the pipeline fails. -/
structure ServiceSettings where
  maxProcessingMs : Nat := 5000
  credentialTimeoutMs : Nat := 1000
  embeddingTimeoutMs : Nat := 2000
  anomalyTimeoutMs : Nat := 1500
  threatTimeoutMs : Nat := 2500
  enableCredential : Bool := true
  enableEmbedding : Bool := true
  enableAnomaly : Bool := true
  enableThreat : Bool := true
  fallbackScore : Float := 0.0

structure CacheSettings where
  enabled : Bool := true
  capacity : Nat := 10000
  ttlSeconds : Nat := 3600
  /-- Width of the span of time within which equal attempts share an entry. -/
  bucketSeconds : UInt64 := 3600
  /-- Key of the authentication code over cache keys; a random one is drawn when it is empty. -/
  keySecret : String := ""

structure ScoringSettings where
  credentialSimilarityWeight : Float := 0.10
  credentialSimilarityThreshold : Float := 0.70
  suspiciousPatternWeight : Float := 0.05
  attackSimilarityWeight : Float := 0.15
  outlierWeight : Float := 0.10
  timeDeviationWeight : Float := 0.05
  locationDeviationWeight : Float := 0.10
  deviceDeviationWeight : Float := 0.05
  frequencyWeight : Float := 0.10
  ipReputationWeight : Float := 0.15
  knownPatternWeight : Float := 0.15
  feedbackBandLow : Float := 0.45
  feedbackBandHigh : Float := 0.80
  minHistorySamples : Nat := 5
  fallbackConfidencePenalty : Float := 0.5

structure EmbeddingSettings where
  dimension : Nat := 128
  coldStartOutlierScore : Float := 0.3
  clusterThreshold : Float := 0.6

structure AnomalySettings where
  frequencyWindowSeconds : UInt64 := 900
  ipAttemptThreshold : Nat := 10
  userAttemptThreshold : Nat := 5
  nightStartHour : Nat := 22
  nightEndHour : Nat := 6
  unknownLocationScore : Float := 0.5
  newCountryScore : Float := 0.7

structure ThreatSettings where
  torDetection : Bool := true
  torScore : Float := 0.6
  vpnScore : Float := 0.2
  indicatorsFile : Option String := none
  windowSeconds : UInt64 := 900
  bruteForceAttempts : Nat := 10
  stuffingAccountsThreshold : Nat := 5
  distributedIpThreshold : Nat := 5

structure LearningSettings where
  enabled : Bool := true
  queueCapacity : Nat := 1024
  biasStep : Float := 0.05
  maxUserBias : Float := 0.2
  minFeedbackConfidence : Float := 0.5
  maxKnownLocations : Nat := 20
  maxKnownDevices : Nat := 10
  maxLoginHistory : Nat := 50
  maxTypicalEmbeddings : Nat := 50
  outcomeHistoryDays : Int := 30
  /-- How long a shutdown waits for queued jobs. -/
  drainTimeoutSeconds : Nat := 5

structure HealthSettings where
  degradedLatencyMs : Nat := 1000
  unhealthyAfterFailures : Nat := 3

structure MetricsSettings where
  processingWindow : Nat := 1000
  errorHistorySize : Nat := 100
  reportIntervalSeconds : Nat := 60
  cleanupIntervalSeconds : Nat := 30

structure StorageSettings where
  /-- `memory` or `sqlite`. -/
  backend : String := "memory"
  sqlitePath : String := "/var/lib/loginguard/profiles.db"

structure AlertingSettings where
  enabled : Bool := false
  webhookUrl : Option String := none
  timeoutSeconds : Nat := 10

structure LoggingSettings where
  level : String := "info"
  file : String := "/var/log/loginguard/loginguard.log"
  json : Bool := false

structure Settings where
  service : ServiceSettings := {}
  cache : CacheSettings := {}
  scoring : ScoringSettings := {}
  embedding : EmbeddingSettings := {}
  anomaly : AnomalySettings := {}
  threat : ThreatSettings := {}
  learning : LearningSettings := {}
  health : HealthSettings := {}
  metrics : MetricsSettings := {}
  storage : StorageSettings := {}
  alerting : AlertingSettings := {}
  logging : LoggingSettings := {}

end LoginRisk
