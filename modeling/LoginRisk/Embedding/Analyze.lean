import LoginRisk.Embedding.Token
import LoginRisk.Embedding.Vector
import LoginRisk.Findings.Basic
import LoginRisk.Pipeline.Task
import LoginRisk.Profile.Store
import LoginRisk.Settings.Basic

/-!
The embedding stage: how close the vector of an attempt comes to the user's earlier attempts and to
known attacks.
-/

namespace LoginRisk.Embedding

def modelVersion : String := "feature-hash-v1"

def attackTokens : List (String × List String) := [
  ("credential_stuffing",
    ["failed:many", "threat:medium", "ua_family:script", "device:missing", "geo:unknown"]),
  ("brute_force",
    ["failed:excessive", "threat:high", "ua_family:script", "device:missing", "night_time"]),
  ("account_takeover",
    ["vpn_connection", "failed:few", "threat:medium", "device:missing", "night_time"]),
  ("tor_abuse", ["tor_exit", "threat:high", "failed:many", "device:missing", "geo:unknown"])]

def prototypes (dimension : Nat) : List (String × List Float32) :=
  attackTokens.map fun attack => (attack.1, hashed dimension attack.2)

def embed (s : EmbeddingSettings) (a : Attempt) : EmbeddingFindings :=
  { vector := hashed s.dimension (tokens a)
    profileSimilarity := 0.0
    attackSimilarity := 0.0
    cluster := none
    outlierScore := 0.0
    processingMs := 0.0
    modelVersion := modelVersion
    usedFallback := false }

def closeness (a b : List Float32) : Float := clampUnit (cosine a b)

/-- The first of the closest attacks, none when none is close at all, and how close it is. -/
def nearest (vector : List Float32) (attacks : List (String × List Float32)) :
    Option String × Float :=
  attacks.foldl
    (fun best attack =>
      let c := closeness vector attack.2
      if best.2 < c then (some attack.1, c) else best)
    (none, 0.0)

def comparable (length : Nat) (p : Option Profile) : List (List Float32) :=
  (p.map fun p => p.typicalEmbeddings.filter fun v => v.length == length).getD []

def compare (s : EmbeddingSettings) (p : Option Profile) (e : EmbeddingFindings) :
    EmbeddingFindings :=
  let history := comparable e.vector.length p
  let best := history.foldl
    (fun best v => let c := closeness e.vector v; if best < c then c else best) 0.0
  let (attack, similarity) := nearest e.vector (prototypes s.dimension)
  { e with
    profileSimilarity := best
    outlierScore := clampUnit (if history.isEmpty then s.coldStartOutlierScore else 1.0 - best)
    attackSimilarity := similarity
    cluster := if s.clusterThreshold ≤ similarity then attack else none }

def score (s : EmbeddingSettings) (profiles : ProfileStore) (a : Attempt) (e : EmbeddingFindings) :
    Ending EmbeddingFindings :=
  match profiles.load a.profileKey with
  | .error error => .failure error.message
  | .ok profile => .value (compare s profile e)

end LoginRisk.Embedding
