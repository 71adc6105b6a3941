import LoginRisk.Findings.Basic
import LoginRisk.Number.Decimal
import LoginRisk.Settings.Basic

/-!
The score of an attempt: a weighted sum of the findings.
-/

namespace LoginRisk.Decision

structure Term where
  name : String
  value : Float
  weight : Float

inductive AggregationError where
  | term (name : String) (value weight : Float)
  | sum (score : Float)

def AggregationError.message : AggregationError → String
  | .term name value weight =>
    "non-finite " ++ name ++ " term (" ++ Number.plain value ++ " x " ++ Number.plain weight ++ ")"
  | .sum score => "non-finite score " ++ Number.plain score

/-- The similarity of address and credential where it reaches the threshold. -/
def notableSimilarity (s : ScoringSettings) (c : CredentialFindings) : Float :=
  if s.credentialSimilarityThreshold ≤ c.similarity then c.similarity else 0.0

def patternSignal (t : ThreatFindings) : Float :=
  let half := Float.ofNat t.knownPatterns.length / 2.0
  if 1.0 < half then 1.0 else half

/-- The signals in the order in which they are added up. The bias counts in full. -/
def terms (s : ScoringSettings) (c : CredentialFindings) (e : EmbeddingFindings)
    (b : BehaviorFindings) (t : ThreatFindings) : List Term := [
  ⟨"credential_similarity", notableSimilarity s c, s.credentialSimilarityWeight⟩,
  ⟨"suspicious_patterns", if c.anySuspicious then 1.0 else 0.0, s.suspiciousPatternWeight⟩,
  ⟨"attack_similarity", e.attackSimilarity, s.attackSimilarityWeight⟩,
  ⟨"outlier", e.outlierScore, s.outlierWeight⟩,
  ⟨"time_deviation", b.timeDeviation, s.timeDeviationWeight⟩,
  ⟨"location_deviation", b.locationDeviation, s.locationDeviationWeight⟩,
  ⟨"device_deviation", b.deviceDeviation, s.deviceDeviationWeight⟩,
  ⟨"frequency", b.frequencyAnomaly, s.frequencyWeight⟩,
  ⟨"ip_reputation", t.ipReputation, s.ipReputationWeight⟩,
  ⟨"known_patterns", patternSignal t, s.knownPatternWeight⟩,
  ⟨"calibration_bias", b.calibrationBias, 1.0⟩]

def Term.product (t : Term) : Float := t.value * t.weight

/-- The sum of the products, up to the first that is not finite. -/
def addTerms (sum : Float) : List Term → Except AggregationError Float
  | [] => .ok sum
  | t :: rest =>
    if t.product.isFinite then addTerms (sum + t.product) rest
    else .error (.term t.name t.value t.weight)

def aggregate (s : ScoringSettings) (c : CredentialFindings) (e : EmbeddingFindings)
    (b : BehaviorFindings) (t : ThreatFindings) : Except AggregationError Float := do
  let sum ← addTerms 0.0 (terms s c e b t)
  if sum.isFinite then return clampUnit sum else .error (.sum sum)

end LoginRisk.Decision
