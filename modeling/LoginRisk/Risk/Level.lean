/-!
Unit scores and the four risk levels that they fall into.
-/

namespace LoginRisk

/-- The nearest number between zero and one; zero for what is not finite. -/
def clampUnit (x : Float) : Float :=
  if x.isFinite then
    if x < 0.0 then 0.0 else if 1.0 < x then 1.0 else x
  else 0.0

inductive RiskLevel where
  | low | medium | high | critical
  deriving DecidableEq, Repr

namespace RiskLevel

/-- The level of a score. Anything that is not below a threshold, a non-number included, is
critical. -/
def ofScore (score : Float) : RiskLevel :=
  if score < 0.30 then .low
  else if score < 0.60 then .medium
  else if score < 0.95 then .high
  else .critical

def name : RiskLevel → String
  | .low => "LOW"
  | .medium => "MEDIUM"
  | .high => "HIGH"
  | .critical => "CRITICAL"

def all : List RiskLevel := [.low, .medium, .high, .critical]

def rank : RiskLevel → Nat
  | .low => 0
  | .medium => 1
  | .high => 2
  | .critical => 3

end RiskLevel

end LoginRisk
