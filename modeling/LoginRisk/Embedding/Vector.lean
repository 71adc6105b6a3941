import LoginRisk.Hash.Sha256
import LoginRisk.Number.Binary

/-!
Vectors of words: every word adds or subtracts one in a place that its hash decides, and the result is
scaled to length one.
-/

namespace LoginRisk.Embedding

def littleEndian (bytes : Hash.Bytes) : Nat := bytes.foldr (fun b n => b.toNat + 256 * n) 0

/-- The place of a word in a vector of the given dimension, and whether the word subtracts. -/
def bucket (dimension : Nat) (token : String) : Nat × Bool :=
  let digest := Hash.sha256 (Hash.utf8 token)
  (littleEndian (digest.take 8) % dimension, digest.getD 8 0 % 2 = 1)

def accumulate (v : Array Float32) (token : String) : Array Float32 :=
  let (index, negative) := bucket v.size token
  v.modify index fun x => x + if negative then -1.0 else 1.0

/-- The sums of a list of words in each place; a dimension of zero counts as one. -/
def sums (dimension : Nat) (tokens : List String) : Array Float32 :=
  tokens.foldl accumulate (Array.replicate (max dimension 1) 0.0)

/-- The vector scaled to length one, itself when it is zero. -/
def normalize (v : List Float32) : List Float32 :=
  let norm := (v.foldl (fun sum x => sum + x * x) 0.0).sqrt
  if 0.0 < norm then v.map (· / norm) else v

def hashed (dimension : Nat) (tokens : List String) : List Float32 :=
  normalize (sums dimension tokens).toList

/-- The cosine of the angle between two vectors of one length, computed with 64 bits; zero when the
lengths differ or a vector is zero. -/
def cosine (a b : List Float32) : Float :=
  if a.length ≠ b.length || a.isEmpty then 0.0
  else
    let pairs := (a.map Number.widen).zip (b.map Number.widen)
    let dot := pairs.foldl (fun sum p => sum + p.1 * p.2) 0.0
    let normA := pairs.foldl (fun sum p => sum + p.1 * p.1) 0.0
    let normB := pairs.foldl (fun sum p => sum + p.2 * p.2) 0.0
    if normA == 0.0 || normB == 0.0 then 0.0 else dot / (normA.sqrt * normB.sqrt)

end LoginRisk.Embedding
