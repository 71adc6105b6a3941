import LoginRisk.Number.Decimal
import LoginRisk.Settings.Basic
import LoginRisk.Text.Quoted

/-!
Which settings are accepted. The checks are made in a fixed order and the first that fails is the
answer.
-/

namespace LoginRisk

inductive SettingsError where
  | weight (name : String) (value : Float)
  | feedbackBand (low high : Float)
  | fallbackScore (value : Float)
  | zeroTimeout
  | zeroCapacity
  | zeroBucket
  | zeroDimension
  | zeroQueue
  | unknownBackend (name : String)

def SettingsError.message : SettingsError → String
  | .weight name value =>
    "scoring." ++ name ++ " must be a non-negative finite number, got " ++ Number.plain value
  | .feedbackBand low high =>
    "scoring feedback band [" ++ Number.plain low ++ ", " ++ Number.plain high ++
      "] must be an ordered range inside [0, 1]"
  | .fallbackScore value =>
    "service.fallback_risk_score must be in [0, 0.30) so it maps to LOW, got " ++ Number.plain value
  | .zeroTimeout => "service timeouts must be greater than zero"
  | .zeroCapacity => "cache.capacity must be greater than zero when the cache is enabled"
  | .zeroBucket => "cache.time_bucket_secs must be greater than zero"
  | .zeroDimension => "embedding.dimension must be greater than zero"
  | .zeroQueue => "learning.queue_capacity must be greater than zero"
  | .unknownBackend name =>
    "storage.backend must be \"memory\" or \"sqlite\", got " ++ Text.quote name

def ScoringSettings.weights (s : ScoringSettings) : List (String × Float) := [
  ("credential_similarity_weight", s.credentialSimilarityWeight),
  ("suspicious_pattern_weight", s.suspiciousPatternWeight),
  ("attack_similarity_weight", s.attackSimilarityWeight),
  ("outlier_weight", s.outlierWeight),
  ("time_deviation_weight", s.timeDeviationWeight),
  ("location_deviation_weight", s.locationDeviationWeight),
  ("device_deviation_weight", s.deviceDeviationWeight),
  ("frequency_weight", s.frequencyWeight),
  ("ip_reputation_weight", s.ipReputationWeight),
  ("known_pattern_weight", s.knownPatternWeight)]

def isWeight (x : Float) : Bool := x.isFinite && !(x < 0.0)

/-- Between zero and one, both included; false for what is no number. -/
def inUnit (x : Float) : Bool := 0.0 ≤ x && x ≤ 1.0

namespace Settings

def firstError (s : Settings) : Option SettingsError :=
  let c := s.scoring
  let v := s.service
  match c.weights.find? fun w => !isWeight w.2 with
  | some w => some (.weight w.1 w.2)
  | none =>
    if !inUnit c.feedbackBandLow || !inUnit c.feedbackBandHigh ||
        c.feedbackBandHigh < c.feedbackBandLow then
      some (.feedbackBand c.feedbackBandLow c.feedbackBandHigh)
    else if !(0.0 ≤ v.fallbackScore && v.fallbackScore < 0.30) then
      some (.fallbackScore v.fallbackScore)
    else if v.maxProcessingMs = 0 || v.credentialTimeoutMs = 0 || v.embeddingTimeoutMs = 0 ||
        v.anomalyTimeoutMs = 0 || v.threatTimeoutMs = 0 then some .zeroTimeout
    else if s.cache.enabled && s.cache.capacity = 0 then some .zeroCapacity
    else if s.cache.bucketSeconds = 0 then some .zeroBucket
    else if s.embedding.dimension = 0 then some .zeroDimension
    else if s.learning.queueCapacity = 0 then some .zeroQueue
    else if s.storage.backend = "memory" || s.storage.backend = "sqlite" then none
    else some (.unknownBackend s.storage.backend)

def validate (s : Settings) : Except SettingsError Unit :=
  match s.firstError with
  | some e => .error e
  | none => .ok ()

end Settings

end LoginRisk
