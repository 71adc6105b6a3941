import LoginRisk.Proofs.Anomaly.Detect
import LoginRisk.Proofs.Learning.Bias
import LoginRisk.Proofs.Profile.FailurePattern

/-!
The statistics that the anomaly stage reports. Number of samples, success rate and failure pattern are about the same
outcomes, those of its look-back.
-/

namespace LoginRisk.Anomaly

open Profile (Describes successRate failurePattern hourKey)

variable {settings : AnomalySettings} {store : ProfileStore} {a : Attempt} {m : AnomalyState}

def outcomesFrom (start : Instant) (found : Option Profile) : List LoginOutcome :=
  (found.elim [] Profile.outcomes).filter fun o => start ≤ o.timestamp

lemma describes_of_history {t start : Instant} {found : Option Profile} {past : History}
    (h : history t found = .ok past) (hstart : Profile.daysBefore t outcomeDays = .ok start)
    (hfew : (outcomesFrom start found).length < 2 ^ 32) :
    Describes (outcomesFrom start found) past.samples past.successRate past.failurePattern := by
  cases found with
  | none =>
    cases h
    exact Profile.describes_statistics hfew
  | some p =>
    rw [history, Profile.outcomesSince, hstart] at h
    cases h
    exact Profile.describes_statistics hfew

/-- Over any look-back, success rate and failure pattern describe the outcomes that lie in it; and what the anomaly
stage reports about the last thirty days describes those of the user's profile, or none where there is no profile. -/
theorem statistics_of_lookBack :
    (∀ (p : Profile) (now start : Instant) (days : ℤ), Profile.daysBefore now days = .ok start →
      (outcomesFrom start (some p)).length < 2 ^ 32 →
        let outcomes := outcomesFrom start (some p)
        p.outcomesSince now days = .ok outcomes ∧
          Describes outcomes outcomes.length (successRate outcomes) (failurePattern outcomes)) ∧
    ∀ (settings : AnomalySettings) (store : ProfileStore) (a : Attempt) (m : AnomalyState) (found : Option Profile)
      (start : Instant), store.load a.profileKey = .ok found →
      Profile.daysBefore a.timestamp outcomeDays = .ok start → (outcomesFrom start found).length < 2 ^ 32 →
        (LooksBack m a → ∃ r, (detect settings store a m).2 = .value r) ∧
        ∀ r, (detect settings store a m).2 = .value r →
          Describes (outcomesFrom start found) r.historySamples r.successRate r.failurePattern := by
  refine ⟨fun p now start days hstart hfew => ?_, fun settings store a m found start hload hstart hfew => ?_⟩
  · refine ⟨?_, Profile.describes_statistics hfew⟩
    rw [Profile.outcomesSince, hstart]
    rfl
  · refine ⟨exists_detect hload, fun r hr => ?_⟩
    obtain ⟨found', past, ipCount, userCount, hload', hpast, rfl⟩ := findings_of_detect hr
    rw [hload, Except.ok.injEq] at hload'
    subst hload'
    exact describes_of_history hpast hstart hfew

/-- Two failures at nine and one success within thirty days, and an older failure. One failure came from an address
that reads like the key of an hour. -/
def mixedHistory : Profile :=
  { Profile.new "" ⟨0, 0⟩ with outcomes := [
    ⟨⟨-2592001, 0⟩, false, "10.0.0.1"⟩, ⟨⟨-54000, 0⟩, false, "10.0.0.1"⟩, ⟨⟨-50000, 0⟩, true, "10.0.0.1"⟩,
    ⟨⟨-53000, 0⟩, false, "hour_09"⟩] }

theorem statistics_of_mixedHistory :
    (∃ outcomes, mixedHistory.outcomesSince ⟨0, 0⟩ 30 = .ok outcomes ∧ outcomes.length = 3 ∧
      Profile.countUnder (failurePattern outcomes) "hour_09" = 2 ∧
      Profile.countUnder (failurePattern outcomes) "ip:hour_09" = 1) ∧
    ∃ r, (detect {} (Learning.onlyProfile "" mixedHistory).profiles Learning.bareAttempt (.initial {})).2 = .value r ∧
      r.historySamples = 3 ∧ Profile.countUnder r.failurePattern "ip:10.0.0.1" = 1 ∧
      Assoc.total Profile.IsHourKey r.failurePattern = 2 := by
  have hstart : Profile.daysBefore ⟨0, 0⟩ 30 = .ok ⟨-2592000, 0⟩ := by decide +kernel
  have hfew : (outcomesFrom ⟨-2592000, 0⟩ (some mixedHistory)).length < 2 ^ 32 := by decide +kernel
  obtain ⟨hlookBack, hdetect⟩ := statistics_of_lookBack
  constructor
  · obtain ⟨hsince, hdescribes⟩ := hlookBack mixedHistory ⟨0, 0⟩ ⟨-2592000, 0⟩ 30 hstart hfew
    exact ⟨_, hsince, by decide +kernel, (hdescribes.hour 9).trans (by decide +kernel),
      (hdescribes.address "hour_09").trans (by decide +kernel)⟩
  · obtain ⟨hreports, hr⟩ := hdetect {} (Learning.onlyProfile "" mixedHistory).profiles Learning.bareAttempt
      (.initial {}) (some mixedHistory) ⟨-2592000, 0⟩ (Learning.load_onlyProfile "" mixedHistory) hstart hfew
    obtain ⟨r, hvalue⟩ := hreports ⟨⟨_, rfl⟩, ⟨_, rfl⟩, ⟨_, rfl⟩⟩
    have hdescribes := hr r hvalue
    have hhours := hdescribes.hours
    have hsuccesses : Profile.successes (outcomesFrom ⟨-2592000, 0⟩ (some mixedHistory)) = 1 := by decide +kernel
    have hsamples : (outcomesFrom ⟨-2592000, 0⟩ (some mixedHistory)).length = 3 := by decide +kernel
    refine ⟨r, hvalue, hdescribes.samples.trans hsamples,
      (hdescribes.address "10.0.0.1").trans (by decide +kernel), ?_⟩
    omega

end LoginRisk.Anomaly
