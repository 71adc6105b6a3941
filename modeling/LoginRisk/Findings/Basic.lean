import LoginRisk.Risk.Level

/-!
What the four stages find out about an attempt. Each kind of findings has a fallback, which says
nothing against the attempt, and a clamped form with every unit score between zero and one.
-/

namespace LoginRisk

structure FieldFeatures where
  tokenCount : Nat
  uniqueTokenRatio : Float
  /-- Entropy in bits, which has no upper bound. -/
  entropy : Float
  language : String
  suspicious : Bool
  patterns : List String

namespace FieldFeatures

def neutral : FieldFeatures := ⟨0, 0.0, 0.0, "unknown", false, []⟩

def clamp (f : FieldFeatures) : FieldFeatures :=
  { f with uniqueTokenRatio := clampUnit f.uniqueTokenRatio }

end FieldFeatures

structure CredentialFindings where
  email : FieldFeatures
  credential : FieldFeatures
  similarity : Float
  languageConsistency : Bool
  processingMs : Float
  usedFallback : Bool
  modelVersion : String

namespace CredentialFindings

def fallback : CredentialFindings := ⟨.neutral, .neutral, 0.0, true, 0.0, true, "fallback"⟩

def anySuspicious (c : CredentialFindings) : Bool := c.email.suspicious || c.credential.suspicious

def clamp (c : CredentialFindings) : CredentialFindings :=
  { c with
    email := c.email.clamp
    credential := c.credential.clamp
    similarity := clampUnit c.similarity }

end CredentialFindings

structure EmbeddingFindings where
  vector : List Float32
  profileSimilarity : Float
  attackSimilarity : Float
  cluster : Option String
  outlierScore : Float
  processingMs : Float
  modelVersion : String
  usedFallback : Bool

namespace EmbeddingFindings

def fallback : EmbeddingFindings := ⟨[], 0.0, 0.0, none, 0.0, 0.0, "fallback", true⟩

def clamp (e : EmbeddingFindings) : EmbeddingFindings :=
  { e with
    profileSimilarity := clampUnit e.profileSimilarity
    attackSimilarity := clampUnit e.attackSimilarity
    outlierScore := clampUnit e.outlierScore }

end EmbeddingFindings

structure BehaviorFindings where
  isUsualTime : Bool
  timeDeviation : Float
  isUsualLocation : Bool
  locationDeviation : Float
  isUsualDevice : Bool
  deviceDeviation : Float
  frequencyAnomaly : Float
  sessionAnomaly : Float
  successRate : Float
  /-- Failures by hour and by address, in ascending order of the keys. -/
  failurePattern : List (String × Nat)
  historySamples : Nat
  /-- What feedback about this user adds to the score. -/
  calibrationBias : Float
  usedFallback : Bool

namespace BehaviorFindings

/-- What is not known is taken to be usual. -/
def fallback : BehaviorFindings :=
  ⟨true, 0.0, true, 0.0, true, 0.0, 0.0, 0.0, 1.0, [], 0, 0.0, true⟩

/-- The bias has a sign and keeps its value. -/
def clamp (b : BehaviorFindings) : BehaviorFindings :=
  { b with
    timeDeviation := clampUnit b.timeDeviation
    locationDeviation := clampUnit b.locationDeviation
    deviceDeviation := clampUnit b.deviceDeviation
    frequencyAnomaly := clampUnit b.frequencyAnomaly
    sessionAnomaly := clampUnit b.sessionAnomaly
    successRate := clampUnit b.successRate }

end BehaviorFindings

structure BruteForceSigns where
  rapidAttempts : Bool
  multipleIps : Bool
  timePattern : Float

structure StuffingSigns where
  passwordReuse : Bool
  multipleAccounts : Bool
  commonPasswords : Bool

structure TakeoverSigns where
  locationChange : Bool
  deviceChange : Bool
  behaviorChange : Bool

def TakeoverSigns.count (t : TakeoverSigns) : Nat :=
  [t.locationChange, t.deviceChange, t.behaviorChange].countP id

structure ThreatFindings where
  ipReputation : Float
  knownPatterns : List String
  actors : List String
  bruteForce : BruteForceSigns
  stuffing : StuffingSigns
  takeover : TakeoverSigns
  similarAttacks : Nat
  campaign : Option String
  usedFallback : Bool

namespace ThreatFindings

def fallback : ThreatFindings :=
  ⟨0.0, [], [], ⟨false, false, 0.0⟩, ⟨false, false, false⟩, ⟨false, false, false⟩, 0, none, true⟩

def clamp (t : ThreatFindings) : ThreatFindings :=
  { t with
    ipReputation := clampUnit t.ipReputation
    bruteForce := { t.bruteForce with timePattern := clampUnit t.bruteForce.timePattern } }

end ThreatFindings

end LoginRisk
