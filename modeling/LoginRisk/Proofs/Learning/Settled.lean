import LoginRisk.Proofs.Learning.Bias

/-!
How a job is counted. Each that is handled while learning is enabled raises one number, that of the profiles
updated, of the feedback processed or of the failed jobs, unless it panics.
-/

namespace LoginRisk

/-- The jobs that have ended, with a saved profile or with a store that failed. -/
def LearningStats.settled (s : LearningStats) : ℕ := s.profileUpdates + s.feedbackProcessed + s.failedJobs

namespace Learning

open LearningStats

def panics : Except JobError Unit → ℕ
  | .ok () => 0
  | .error _ => 1

/-- The numbers that a job may raise while it changes a profile are not those of ended jobs. -/
lemma settled_change {s : LearningSettings} {now : Instant} {job : LearningJob}
    {vector : Option (List Float32)} {stats stats' : LearningStats} {p : Profile}
    {changed : Except JobError Profile} (h : change s now job vector stats p = (stats', changed)) :
    stats'.settled = stats.settled ∧ stats'.droppedJobs = stats.droppedJobs := by
  have hjudge (kind : FeedbackKind) : (stats.judge kind).settled = stats.settled ∧
      (stats.judge kind).droppedJobs = stats.droppedJobs := by
    cases kind <;> exact ⟨rfl, rfl⟩
  rw [← show (change s now job vector stats p).1 = stats' from congrArg Prod.fst h]
  cases job with
  | outcome a success => exact ⟨rfl, rfl⟩
  | feedback a f =>
    unfold change
    dsimp only
    split
    · exact ⟨rfl, rfl⟩
    · exact hjudge f.kind

lemma settled_finish (stats : LearningStats) (job : LearningJob) :
    (stats.finish job).settled = stats.settled + 1 ∧ (stats.finish job).droppedJobs = stats.droppedJobs := by
  cases job <;> simp only [finish, settled, and_true] <;> omega

lemma settled_fail (stats : LearningStats) :
    stats.fail.settled = stats.settled + 1 ∧ stats.fail.droppedJobs = stats.droppedJobs := ⟨rfl, rfl⟩

lemma settled_apply (s : LearningSettings) (now : Instant) (job : LearningJob)
    (vector : Option (List Float32)) (state : LearningState) :
    let after := finished (apply s now job vector state)
    after.1.stats.settled + panics after.2 = state.stats.settled + 1 ∧
      after.1.stats.droppedJobs = state.stats.droppedJobs := by
  intro after
  cases hload : state.profiles.load job.key with
  | error e =>
    have happly : apply s now job vector state = (state, .error (.store e)) := by
      simp only [apply, hload]
    simp only [after, happly]
    exact settled_fail state.stats
  | ok known =>
    obtain ⟨stats, changed, hchange⟩ : ∃ stats changed, change s now job vector state.stats
        (known.getD (.new job.key now)) = (stats, changed) := ⟨_, _, rfl⟩
    obtain ⟨hsettled, hdropped⟩ := settled_change hchange
    rw [← hsettled, ← hdropped]
    cases changed with
    | error e =>
      have hpanicked : e = .panicked := change_error (congrArg Prod.snd hchange)
      simp only [after, apply_of_change_error hload hchange, hpanicked]
      exact ⟨rfl, rfl⟩
    | ok p =>
      cases hsave : state.profiles.save p with
      | error e =>
        have happly : apply s now job vector state = ({ state with stats }, .error (.store e)) := by
          simp only [apply, hload, hchange, hsave]
        simp only [after, happly]
        exact settled_fail stats
      | ok saved =>
        simp only [after, apply_of_change hload hchange hsave]
        exact settled_finish stats job

/-- Every job that is handled is counted once, unless it panics. -/
lemma settled_handle {σ : Type} {s : LearningSettings} (henabled : s.enabled = true) (embed : Embedder σ)
    (now : Instant) (job : LearningJob) (memory : σ) (state : LearningState) :
    let run := handle s embed now job memory state
    run.state.stats.settled + panics run.ending = state.stats.settled + 1 ∧
      run.state.stats.droppedJobs = state.stats.droppedJobs := by
  intro run
  cases hvector : vectorFor s embed job memory with
  | error e =>
    have hresult : run.result = (state, .error .panicked) := handle_of_error henabled hvector
    rw [show run.state = state from congrArg Prod.fst hresult,
      show run.ending = .error .panicked from congrArg Prod.snd hresult]
    exact ⟨rfl, rfl⟩
  | ok vector =>
    have hresult : run.result = finished (apply s now job vector state) := handle_of_vector henabled hvector
    rw [show run.state = _ from congrArg Prod.fst hresult, show run.ending = _ from congrArg Prod.snd hresult]
    exact settled_apply s now job vector state

end Learning

end LoginRisk
