import LoginRisk.Decision.Aggregate
import LoginRisk.Proofs.Number.Order

/-!
When a weighted sum has a score: exactly when every product and the whole sum are finite. The bias is
one of the products, so that a score vouches for the bias as well.
-/

namespace LoginRisk.Decision

def total (sum : Float) (ts : List Term) : Float := ts.foldl (fun sum t => sum + t.product) sum

/-- A product or the sum of all products leaves the finite numbers. -/
def Overflows (ts : List Term) : Prop :=
  (∃ t ∈ ts, t.product.isFinite = false) ∨ (total 0.0 ts).isFinite = false

instance (ts : List Term) : Decidable (Overflows ts) :=
  inferInstanceAs (Decidable (_ ∨ _))

lemma not_overflows_iff (ts : List Term) :
    ¬Overflows ts ↔ (∀ t ∈ ts, t.product.isFinite = true) ∧ (total 0.0 ts).isFinite = true := by
  simp [Overflows]

lemma addTerms_eq_ok_iff (sum : Float) (ts : List Term) (x : Float) :
    addTerms sum ts = .ok x ↔ (∀ t ∈ ts, t.product.isFinite = true) ∧ x = total sum ts := by
  induction ts generalizing sum with
  | nil =>
    constructor
    · intro h
      cases h
      exact ⟨by simp, rfl⟩
    · rintro ⟨-, rfl⟩
      rfl
  | cons t ts ih =>
    rw [addTerms]
    split
    · rename_i ht
      rw [ih]
      simp [ht, total]
    · rename_i ht
      simp [ht]

/-- There is a score exactly when nothing overflows, and then it is the clamped sum. -/
theorem aggregate_eq_ok_iff (s : ScoringSettings) (c : CredentialFindings) (e : EmbeddingFindings)
    (b : BehaviorFindings) (t : ThreatFindings) (x : Float) :
    aggregate s c e b t = .ok x ↔
      ¬Overflows (terms s c e b t) ∧ x = clampUnit (total 0.0 (terms s c e b t)) := by
  generalize hts : terms s c e b t = ts
  have hadd := addTerms_eq_ok_iff 0.0 ts
  cases h : addTerms 0.0 ts with
  | error err =>
    have hagg : aggregate s c e b t = .error err := by
      rw [aggregate, hts, h]
      rfl
    rw [hagg]
    constructor
    · intro hx
      cases hx
    · rintro ⟨hov, -⟩
      rw [(hadd _).mpr ⟨((not_overflows_iff ts).mp hov).1, rfl⟩] at h
      cases h
  | ok sum =>
    obtain ⟨hp, rfl⟩ := (hadd sum).mp h
    have hagg : aggregate s c e b t = if (total 0.0 ts).isFinite then .ok (clampUnit (total 0.0 ts))
        else .error (.sum (total 0.0 ts)) := by
      rw [aggregate, hts, h]
      rfl
    rw [hagg]
    split
    · rename_i hf
      have hov := (not_overflows_iff ts).mpr ⟨hp, hf⟩
      simp [hov, eq_comm]
    · rename_i hf
      have hov : Overflows ts := .inr (by simpa using hf)
      simp [hov]

lemma bias_isFinite_of_not_overflows {s : ScoringSettings} {c : CredentialFindings}
    {e : EmbeddingFindings} {b : BehaviorFindings} {t : ThreatFindings}
    (h : ¬Overflows (terms s c e b t)) : b.calibrationBias.isFinite = true := by
  have hbias : (⟨"calibration_bias", b.calibrationBias, 1.0⟩ : Term) ∈ terms s c e b t := by
    simp [terms]
  have hproduct := ((not_overflows_iff _).mp h).1 _ hbias
  rw [Term.product] at hproduct
  exact Number.isFinite_left_of_mul hproduct

end LoginRisk.Decision
