import LoginRisk.Assoc

/-!
Recommended responses to an attempt.
-/

namespace LoginRisk

inductive ActionKind where
  | allow | monitor | requireSecondFactor | block | alert | requestFeedback | manualReview
  deriving DecidableEq, Repr

namespace ActionKind

def name : ActionKind → String
  | .allow => "ALLOW"
  | .monitor => "MONITOR"
  | .requireSecondFactor => "REQUIRE_2FA"
  | .block => "BLOCK"
  | .alert => "ALERT"
  | .requestFeedback => "REQUEST_FEEDBACK"
  | .manualReview => "MANUAL_REVIEW"

def all : List ActionKind :=
  [.allow, .monitor, .requireSecondFactor, .block, .alert, .requestFeedback, .manualReview]

end ActionKind

/-- A recommended response. The lower the priority, the more urgent. -/
structure Action where
  kind : ActionKind
  priority : Nat
  description : String
  /-- Parameters in ascending order of their names. -/
  parameters : List (String × String)
  automated : Bool
  requiresHumanReview : Bool
  deriving DecidableEq, Repr

namespace Action

def make (kind : ActionKind) (priority : Nat) (description : String) : Action :=
  ⟨kind, priority, description, [], true, false⟩

def withParameter (a : Action) (name value : String) : Action :=
  { a with parameters := Assoc.putSorted name value a.parameters }

def needsReview (a : Action) : Action :=
  { a with automated := false, requiresHumanReview := true }

end Action

end LoginRisk
