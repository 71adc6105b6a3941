import LoginRisk.Json.Writer

/-!
Feedback about earlier decisions, and the loosely typed form in which callers give it.
-/

namespace LoginRisk

inductive FeedbackKind where
  /-- The attempt was flagged but legitimate. -/
  | falsePositive
  /-- The attempt was allowed but malicious. -/
  | falseNegative
  | confirmed
  deriving DecidableEq, Repr

def FeedbackKind.name : FeedbackKind → String
  | .falsePositive => "false_positive"
  | .falseNegative => "false_negative"
  | .confirmed => "confirmed"

structure Feedback where
  kind : FeedbackKind
  confidence : Float
  originalScore : Option Float
  source : String
  notes : Option String

inductive FeedbackError where
  | contradictory
  | confidence (given : Json)
  | originalScore (given : Json)

/-- The message quotes what was given as compact JSON with its members in order. -/
def FeedbackError.message : FeedbackError → String
  | .contradictory => "feedback cannot be both false positive and false negative"
  | .confidence given => "confidence must be a number in [0, 1], got " ++ given.sorted.compact
  | .originalScore given => "original_risk_score must be in [0, 1], got " ++ given.sorted.compact

namespace Feedback

/-- A member of the map that is `true`; anything else counts as `false`. -/
def flag (map : List (String × Json)) (name : String) : Bool :=
  match Json.member? map name with
  | some (.bool b) => b
  | _ => false

def text? (map : List (String × Json)) (name : String) : Option String :=
  match Json.member? map name with
  | some (.string s) => some s
  | _ => none

/-- A member that is a number between zero and one, `none` when it is absent or `null`. -/
def unit? (map : List (String × Json)) (name : String) : Except Json (Option Float) :=
  match Json.member? map name with
  | none | some .null => .ok none
  | some (.number n) =>
    let x := n.toFloat
    if 0.0 ≤ x && x ≤ 1.0 then .ok (some x) else .error (.number n)
  | some j => .error j

def kindOf (positive negative : Bool) : Except FeedbackError FeedbackKind :=
  match positive, negative with
  | true, true => .error .contradictory
  | true, false => .ok .falsePositive
  | false, true => .ok .falseNegative
  | false, false => .ok .confirmed

/-- The feedback that a map stands for. Members of other names are passed over. -/
def ofMap (map : List (String × Json)) : Except FeedbackError Feedback := do
  let kind ← kindOf (flag map "is_false_positive") (flag map "is_false_negative")
  let confidence ← (unit? map "confidence").mapError .confidence
  let originalScore ← (unit? map "original_risk_score").mapError .originalScore
  return {
    kind
    confidence := confidence.getD 1.0
    originalScore
    source := (text? map "source").getD "user"
    notes := text? map "notes" }

def toJson (f : Feedback) : Json := .object [
  ("kind", .string f.kind.name),
  ("confidence", .float f.confidence),
  ("original_risk_score", .option .float f.originalScore),
  ("source", .string f.source),
  ("notes", .option .string f.notes)]

end Feedback

end LoginRisk
