import LoginRisk.Proofs.Learning.Settled
import LoginRisk.Proofs.Learning.Sequence

/-!
What is left of a job when the store fails. No profile changes, and one failed job is counted. Feedback whose profile
cannot be saved has been counted under its kind before, and stays so without ever counting as processed.
-/

namespace LoginRisk

namespace LearningStats

def judged (s : LearningStats) : ℕ := s.falsePositives + s.falseNegatives + s.confirmed

/-- Of the feedback counted under its kind since `before`, all but some has been processed. -/
def Lose (before after : LearningStats) (lost : ℕ) : Prop :=
  after.judged + before.feedbackProcessed = before.judged + after.feedbackProcessed + lost

lemma lose_self (s : LearningStats) : s.Lose s 0 := rfl

lemma lose_fail (s : LearningStats) : s.Lose s.fail 0 := rfl

lemma lose_judge (s : LearningStats) (kind : FeedbackKind) : s.Lose (s.judge kind) 1 := by
  cases kind <;> simp only [Lose, judge, judged] <;> omega

lemma lose_judge_finish (s : LearningStats) (a : Attempt) (f : Feedback) :
    s.Lose ((s.judge f.kind).finish (.feedback a f)) 0 := by
  have hjudge := lose_judge s f.kind
  simp only [Lose, finish, judged] at hjudge ⊢
  omega

lemma Lose.trans {before between after : LearningStats} {first last : ℕ} (h : before.Lose between first)
    (h' : between.Lose after last) : before.Lose after (first + last) := by
  unfold Lose at *
  omega

end LearningStats

namespace Learning

open LearningStats

variable {σ : Type} {s : LearningSettings} {embed : Embedder σ} {now : Instant} {job : LearningJob}
  {memory : σ} {state : LearningState} {vector : Option (List Float32)}

/-- The job gets to loading its profile, and the store fails. -/
def FailsToLoad (s : LearningSettings) (embed : Embedder σ) (job : LearningJob) (memory : σ)
    (state : LearningState) : Prop :=
  (∃ vector, vectorFor s embed job memory = .ok vector) ∧ ∃ e, state.profiles.load job.key = .error e

/-- The job gets to saving the profile that it has changed, and the store fails. -/
def FailsToSave (s : LearningSettings) (embed : Embedder σ) (now : Instant) (job : LearningJob) (memory : σ)
    (state : LearningState) : Prop :=
  ∃ vector known p e, vectorFor s embed job memory = .ok vector ∧ state.profiles.load job.key = .ok known ∧
    (change s now job vector state.stats (known.getD (.new job.key now))).2 = .ok p ∧
    state.profiles.save p = .error e

def countKind (stats : LearningStats) : LearningJob → LearningStats
  | .outcome .. => stats
  | .feedback _ f => stats.judge f.kind

/-- Feedback is entered into the loaded profile, and then the profile is not saved. -/
def losesFeedback (s : LearningSettings) (embed : Embedder σ) (now : Instant) (job : LearningJob) (memory : σ)
    (state : LearningState) : Bool :=
  match job, vectorFor s embed job memory, state.profiles.load job.key with
  | .feedback a f, .ok vector, .ok known =>
    (applyFeedback s now a f vector (known.getD (.new job.key now))).isOk && !(apply s now job vector state).2.isOk
  | _, _, _ => false

lemma change_stats_of_ok {stats : LearningStats} {p p' : Profile}
    (h : (change s now job vector stats p).2 = .ok p') :
    (change s now job vector stats p).1 = countKind stats job := by
  cases job with
  | outcome a success => rfl
  | feedback a f =>
    obtain ⟨moved, -, hmoved, -⟩ := change_feedback_eq_ok h
    rw [change, hmoved]
    rfl

lemma handle_of_failsToLoad (henabled : s.enabled = true) (h : FailsToLoad s embed job memory state) :
    (handle s embed now job memory state).result = ({ state with stats := state.stats.fail }, .ok ()) := by
  obtain ⟨⟨vector, hvector⟩, e, hload⟩ := h
  have happly : apply s now job vector state = (state, .error (.store e)) := by
    simp only [apply, hload]
  rw [handle_of_vector henabled hvector, happly]
  rfl

lemma handle_of_failsToSave (henabled : s.enabled = true) (h : FailsToSave s embed now job memory state) :
    (handle s embed now job memory state).result =
      ({ state with stats := (countKind state.stats job).fail }, .ok ()) := by
  obtain ⟨vector, known, p, e, hvector, hload, hchange, hsave⟩ := h
  have hchanged : change s now job vector state.stats (known.getD (.new job.key now)) =
      (countKind state.stats job, .ok p) := Prod.ext (change_stats_of_ok hchange) hchange
  have happly : apply s now job vector state =
      ({ state with stats := countKind state.stats job }, .error (.store e)) := by
    simp only [apply, hload, hchanged, hsave]
  rw [handle_of_vector henabled hvector, happly]
  rfl

lemma countKind_feedback_ne (stats : LearningStats) (a : Attempt) (f : Feedback) :
    (countKind stats (.feedback a f)).fail ≠ stats.fail := by
  intro heq
  have hlose : stats.Lose (stats.judge f.kind) 1 := lose_judge stats f.kind
  have hjudged := congrArg judged heq
  have hprocessed := congrArg feedbackProcessed heq
  change (stats.judge f.kind).judged = stats.judged at hjudged
  change (stats.judge f.kind).feedbackProcessed = stats.feedbackProcessed at hprocessed
  unfold Lose at hlose
  omega

section Balance

lemma lose_apply_outcome (a : Attempt) (success : Bool) (vector : Option (List Float32)) (state : LearningState) :
    state.stats.Lose (finished (apply s now (.outcome a success) vector state)).1.stats 0 := by
  unfold apply
  split
  · exact lose_fail _
  · rename_i known hload
    cases houtcome : applyOutcome s now a success vector (known.getD (.new (LearningJob.outcome a success).key now)) with
    | error e =>
      simp only [change, houtcome, Except.mapError]
      exact lose_self _
    | ok p =>
      simp only [change, houtcome, Except.mapError]
      split
      · exact lose_fail _
      · exact rfl

lemma lose_apply_feedback (a : Attempt) (f : Feedback) (vector : Option (List Float32)) (state : LearningState)
    {known : Option Profile} (hload : state.profiles.load (LearningJob.feedback a f).key = .ok known) :
    state.stats.Lose (finished (apply s now (.feedback a f) vector state)).1.stats
      ((applyFeedback s now a f vector (known.getD (.new (LearningJob.feedback a f).key now))).isOk &&
        !(apply s now (.feedback a f) vector state).2.isOk).toNat := by
  cases hmoved : applyFeedback s now a f vector (known.getD (.new (LearningJob.feedback a f).key now)) with
  | error e =>
    have hchange : change s now (.feedback a f) vector state.stats
        (known.getD (.new (LearningJob.feedback a f).key now)) = (state.stats, .error .panicked) := by
      rw [change, hmoved]
    rw [apply_of_change_error hload hchange]
    exact lose_self _
  | ok moved =>
    -- The kind is counted from here on, whatever becomes of the profile.
    cases hbias : boundBias s moved with
    | none =>
      have hchange : change s now (.feedback a f) vector state.stats
          (known.getD (.new (LearningJob.feedback a f).key now)) = (state.stats.judge f.kind, .error .panicked) := by
        simp only [change, hmoved, hbias]
      rw [apply_of_change_error hload hchange]
      exact lose_judge _ _
    | some p =>
      have hchange : change s now (.feedback a f) vector state.stats
          (known.getD (.new (LearningJob.feedback a f).key now)) =
            (state.stats.judge f.kind, .ok { p with updatedAt := now }) := by
        simp only [change, hmoved, hbias]
      cases hsave : state.profiles.save { p with updatedAt := now } with
      | error e =>
        have happly : apply s now (.feedback a f) vector state =
            ({ state with stats := state.stats.judge f.kind }, .error (.store e)) := by
          simp only [apply, hload, hchange, hsave]
        rw [happly]
        exact lose_judge _ _
      | ok saved =>
        rw [apply_of_change hload hchange hsave]
        exact lose_judge_finish _ a f

lemma lose_handle (henabled : s.enabled = true) (embed : Embedder σ) (now : Instant) (job : LearningJob)
    (memory : σ) (state : LearningState) :
    state.stats.Lose (handle s embed now job memory state).state.stats
      (losesFeedback s embed now job memory state).toNat := by
  change state.stats.Lose (handle s embed now job memory state).result.1.stats _
  unfold losesFeedback
  cases hvector : vectorFor s embed job memory with
  | error e =>
    rw [handle_of_error henabled hvector]
    cases job <;> exact lose_self _
  | ok vector =>
    rw [handle_of_vector henabled hvector]
    cases job with
    | outcome a success => exact lose_apply_outcome a success vector state
    | feedback a f =>
      cases hload : state.profiles.load (LearningJob.feedback a f).key with
      | error e =>
        have happly : apply s now (.feedback a f) vector state = (state, .error (.store e)) := by
          simp only [apply, hload]
        rw [happly]
        exact lose_fail _
      | ok known => exact lose_apply_feedback a f vector state hload

end Balance

/-- A job at its time, and what the store refuses meanwhile. -/
structure Errand where
  now : Instant
  job : LearningJob
  faults : StoreFaults

def Errand.meet (e : Errand) (state : LearningState) : LearningState :=
  { state with profiles := { state.profiles with faults := e.faults } }

def Errand.run (s : LearningSettings) (embed : Embedder σ) (e : Errand) (memory : σ) (state : LearningState) :
    JobRun σ :=
  handle s embed e.now e.job memory (e.meet state)

def runErrands (s : LearningSettings) (embed : Embedder σ) : List Errand → σ → LearningState → LearningState
  | [], _, state => state
  | e :: rest, memory, state =>
    let run := e.run s embed memory state
    runErrands s embed rest run.memory run.state

def lostFeedback (s : LearningSettings) (embed : Embedder σ) : List Errand → σ → LearningState → ℕ
  | [], _, _ => 0
  | e :: rest, memory, state =>
    let run := e.run s embed memory state
    (losesFeedback s embed e.now e.job memory (e.meet state)).toNat + lostFeedback s embed rest run.memory run.state

lemma lose_runErrands (henabled : s.enabled = true) (embed : Embedder σ) (errands : List Errand) (memory : σ)
    (state : LearningState) :
    state.stats.Lose (runErrands s embed errands memory state).stats (lostFeedback s embed errands memory state) := by
  induction errands generalizing memory state with
  | nil => exact lose_self _
  | cons e rest ih =>
    have hfirst := lose_handle henabled embed e.now e.job memory (e.meet state)
    have hrest := ih (e.run s embed memory state).memory (e.run s embed memory state).state
    exact LearningStats.Lose.trans hfirst hrest

/-- A store that fails leaves every profile and counts one failed job. It leaves all other numbers too, except where
feedback has come as far as saving, which then has been counted under its kind. Over any run of jobs, with any
pattern of failures, the feedback counted by kind exceeds that which is processed by what has been lost so. -/
theorem stats_of_store_failures (henabled : s.enabled = true) (embed : Embedder σ) :
    (∀ now job memory state, FailsToLoad s embed job memory state →
      (handle s embed now job memory state).result = ({ state with stats := state.stats.fail }, .ok ())) ∧
    (∀ now job memory state, FailsToSave s embed now job memory state →
      (handle s embed now job memory state).result =
        ({ state with stats := (countKind state.stats job).fail }, .ok ())) ∧
    (∀ now job memory state, FailsToLoad s embed job memory state ∨ FailsToSave s embed now job memory state →
      ((handle s embed now job memory state).state = { state with stats := state.stats.fail } ↔
        ¬(FailsToSave s embed now job memory state ∧ ∃ a f, job = .feedback a f))) ∧
    ∀ errands memory profiles, let after := (runErrands s embed errands memory { profiles }).stats
      after.falsePositives + after.falseNegatives + after.confirmed =
        after.feedbackProcessed + lostFeedback s embed errands memory { profiles } := by
  refine ⟨fun now job memory state => handle_of_failsToLoad henabled,
    fun now job memory state => handle_of_failsToSave henabled, fun now job memory state h => ?_,
    fun errands memory profiles => ?_⟩
  · by_cases hsave : FailsToSave s embed now job memory state
    · have hstate : (handle s embed now job memory state).state = _ :=
        congrArg Prod.fst (handle_of_failsToSave henabled hsave)
      rw [hstate]
      cases job with
      | outcome a success => simp [countKind]
      | feedback a f =>
        have hne := countKind_feedback_ne state.stats a f
        simp [hsave, hne]
    · have hload := h.resolve_right hsave
      have hstate : (handle s embed now job memory state).state = _ :=
        congrArg Prod.fst (handle_of_failsToLoad henabled hload)
      simp [hstate, hsave]
  · have hlose := lose_runErrands henabled embed errands memory { profiles }
    simpa [Lose, judged] using hlose

def judgeWith (kind : FeedbackKind) (faults : StoreFaults) : Errand :=
  ⟨⟨0, 0⟩, .feedback bareAttempt (bareFeedback kind), faults⟩

/-- Only a refused save loses feedback, and it loses it once. -/
theorem stats_of_refusals :
    let errands := [judgeWith .confirmed {}, judgeWith .falseNegative { load := true },
      judgeWith .falsePositive { save := true }]
    let after := (runErrands {} constantEmbedder errands () { profiles := .memory }).stats
    after.failedJobs = 2 ∧
      after.falsePositives + after.falseNegatives + after.confirmed = after.feedbackProcessed + 1 := by
  intro errands after
  obtain ⟨-, -, -, hcount⟩ := stats_of_store_failures (s := {}) rfl constantEmbedder
  have hlost : lostFeedback {} constantEmbedder errands () { profiles := .memory } = 1 := by decide +kernel
  have hfailed : after.failedJobs = 2 := by decide +kernel
  exact ⟨hfailed, hlost ▸ hcount errands () .memory⟩

def fullStore : LearningState := { profiles := { ProfileStore.memory with faults := { save := true } } }

/-- What is counted under a kind stays so when the profile is then not saved, unlike what counts as processed. -/
theorem refused_feedback_counts :
    let job := LearningJob.feedback bareAttempt (bareFeedback .falsePositive)
    let after := (handle {} constantEmbedder ⟨0, 0⟩ job () fullStore).state
    FailsToSave {} constantEmbedder ⟨0, 0⟩ job () fullStore ∧
      after.stats ≠ fullStore.stats.fail ∧
      after.stats.falsePositives + after.stats.falseNegatives + after.stats.confirmed ≠
        after.stats.feedbackProcessed := by
  intro job after
  have hkeeps : KeepsBias {} ⟨0, 0⟩ := ⟨⟨_, rfl⟩, by decide +kernel, by decide +kernel, .inl (by decide +kernel)⟩
  obtain ⟨stats, p, hchange, -⟩ := hkeeps.exists_change (p := .new job.key ⟨0, 0⟩) isFinite_zero job none {}
  refine ⟨⟨none, none, p, .save, rfl, rfl, congrArg Prod.snd hchange, rfl⟩, ?_, ?_⟩
  · decide +kernel
  · decide +kernel

end Learning

end LoginRisk
