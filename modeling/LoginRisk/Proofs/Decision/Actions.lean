import LoginRisk.Assessment.Fallback
import LoginRisk.Decision.Decide
import Mathlib.Order.Basic

/-!
The actions of an answer agree with its level: only a critical answer blocks, only a high one asks for
a second factor, and the most urgent action comes first.
-/

namespace LoginRisk

namespace Assessment

/-- An answer whose reports, flags and actions agree with one another. -/
structure Coherent (r : Assessment) : Prop where
  stages : r.reports.map StageReport.stage = Stage.all
  block : r.shouldBlock = true ↔ r.level = .critical
  blockAction : r.level = .critical ↔ r.hasAction .block = true
  secondFactor : r.requiresSecondFactor = true ↔ r.level = .high
  secondFactorAction : r.level = .high ↔ r.hasAction .requireSecondFactor = true
  sorted : r.actions.Pairwise fun a b => a.priority ≤ b.priority

lemma fallback_coherent (requestId : String) (score processingMs : Float) (now : Instant) :
    (fallback requestId score processingMs now).Coherent where
  stages := by simp [fallback, Stage.all]
  block := by simp [fallback]
  blockAction := by simp [fallback, hasAction, reviewAction, Action.make, Action.withParameter,
    Action.needsReview]
  secondFactor := by simp [fallback]
  secondFactorAction := by simp [fallback, hasAction, reviewAction, Action.make,
    Action.withParameter, Action.needsReview]
  sorted := by simp [fallback]

end Assessment

namespace Decision

lemma mem_allActions_iff {level : RiskLevel} {score : String} {anonymized feedback : Bool}
    (a : Action) : a ∈ allActions level score anonymized feedback ↔
      a ∈ levelActions score level ∨
      (anonymized = true ∧ a = (Action.make .alert 2 "Login through anonymizing network").withParameter
        "risk_level" level.name) ∨
      (feedback = true ∧ a = (Action.make .requestFeedback 4
        "Ask the user to confirm this login").withParameter "risk_score" score) := by
  cases anonymized <;> cases feedback <;> simp [allActions]

/-- The level that an action is kept for, if it decides about the login. -/
def reservedFor : ActionKind → Option RiskLevel
  | .block => some .critical
  | .requireSecondFactor => some .high
  | _ => none

lemma any_allActions_iff {kind : ActionKind} {reserved : RiskLevel}
    (h : reservedFor kind = some reserved) (level : RiskLevel) (score : String)
    (anonymized feedback : Bool) :
    (allActions level score anonymized feedback).any (·.kind = kind) = true ↔ level = reserved := by
  have hlevel : (levelActions score level).any (·.kind = kind) = true ↔ level = reserved := by
    cases kind <;> cases h <;> cases level <;>
      simp [levelActions, allow, monitor, Action.make, Action.withParameter]
  have halert : kind ≠ .alert ∧ kind ≠ .requestFeedback := by
    constructor <;> rintro rfl <;> cases h
  rw [← hlevel]
  simp only [List.any_eq_true, mem_allActions_iff, decide_eq_true_eq]
  constructor
  · rintro ⟨a, ha | ⟨-, rfl⟩ | ⟨-, rfl⟩, hk⟩
    · exact ⟨a, ha, hk⟩
    · exact absurd hk.symm halert.1
    · exact absurd hk.symm halert.2
  · rintro ⟨a, ha, hk⟩
    exact ⟨a, .inl ha, hk⟩

lemma allActions_ne_nil (level : RiskLevel) (score : String) (anonymized feedback : Bool) :
    allActions level score anonymized feedback ≠ [] := by
  have h : ∃ a, a ∈ levelActions score level := by
    cases level <;> simp [levelActions]
  obtain ⟨a, ha⟩ := h
  exact List.ne_nil_of_mem ((mem_allActions_iff a).mpr (.inl ha))

lemma sorted_mergeSort_priority (as : List Action) :
    (as.mergeSort fun a b => a.priority ≤ b.priority).Pairwise fun a b => a.priority ≤ b.priority := by
  refine (List.pairwise_mergeSort ?_ ?_ as).imp fun hab => of_decide_eq_true hab
  · intro a b c hab hbc
    exact decide_eq_true (Nat.le_trans (of_decide_eq_true hab) (of_decide_eq_true hbc))
  · intro a b
    simpa using Nat.le_total a.priority b.priority

lemma allActions_sorted (level : RiskLevel) (score : String) (anonymized feedback : Bool) :
    (allActions level score anonymized feedback).Pairwise fun a b => a.priority ≤ b.priority :=
  sorted_mergeSort_priority _

end Decision

end LoginRisk
