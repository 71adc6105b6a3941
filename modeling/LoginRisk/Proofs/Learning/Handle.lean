import LoginRisk.Learning.Engine
import Mathlib.Tactic.Lemma

/-!
What running a job comes down to once its vector is known: the work on the store, after which a store
that failed is counted and not reported.
-/

namespace LoginRisk.Learning

/-- What a job leaves and reports in the end: a store that fails is only counted. -/
def finished : LearningState × Except JobError Unit → LearningState × Except JobError Unit
  | (state, .error (.store _)) => ({ state with stats := state.stats.fail }, .ok ())
  | (state, .error .panicked) => (state, .error .panicked)
  | (state, .ok ()) => (state, .ok ())

def vectorFor {σ : Type} (s : LearningSettings) (embed : Embedder σ) (job : LearningJob) (memory : σ) :
    Except JobError (Option (List Float32)) :=
  if job.needsVector s then vectorOf (embed job.attempt memory).2.ending else .ok none

def JobRun.result {σ : Type} (run : JobRun σ) : LearningState × Except JobError Unit :=
  (run.state, run.ending)

variable {σ : Type} {s : LearningSettings} {embed : Embedder σ} {now : Instant} {job : LearningJob}
  {memory : σ} {state : LearningState} {vector : Option (List Float32)}

lemma handle_of_disabled (h : s.enabled = false) :
    (handle s embed now job memory state).result = (state, .ok ()) := by
  rw [handle, h]
  rfl

lemma perform_result :
    (perform s embed now job memory state).result =
      match vectorFor s embed job memory with
      | .error e => (state, .error e)
      | .ok vector => apply s now job vector state := by
  by_cases h : job.needsVector s = true
  · rw [vectorFor, perform, if_pos h, if_pos h]
    cases hvector : vectorOf (embed job.attempt memory).2.ending <;> simp only [hvector] <;> rfl
  · rw [vectorFor, perform, if_neg h, if_neg h]
    rfl

lemma handle_of_enabled (h : s.enabled = true) :
    (handle s embed now job memory state).result =
      finished (perform s embed now job memory state).result := by
  simp only [handle, h, Bool.not_true, Bool.false_eq_true, if_false, JobRun.result]
  generalize perform s embed now job memory state = run
  obtain ⟨memory', state', ending, delay⟩ := run
  rcases ending with (_ | _) | _ <;> rfl

lemma handle_of_vector (henabled : s.enabled = true) (h : vectorFor s embed job memory = .ok vector) :
    (handle s embed now job memory state).result = finished (apply s now job vector state) := by
  rw [handle_of_enabled henabled, perform_result, h]

lemma handle_of_error (henabled : s.enabled = true) {e : JobError}
    (h : vectorFor s embed job memory = .error e) :
    (handle s embed now job memory state).result = (state, .error .panicked) := by
  have hpanicked : e = .panicked := by
    unfold vectorFor vectorOf at h
    split at h
    · split at h <;> cases h
      rfl
    · cases h
  rw [handle_of_enabled henabled, perform_result, h, hpanicked]
  rfl

lemma exists_vectorFor (s : LearningSettings) (job : LearningJob) (memory : σ)
    (hembed : ∀ a memory, (embed a memory).2.ending ≠ .panicked) :
    ∃ vector, vectorFor s embed job memory = .ok vector := by
  unfold vectorFor
  split
  · have hpanicked := hembed job.attempt memory
    unfold vectorOf
    split
    · exact ⟨_, rfl⟩
    · exact ⟨_, rfl⟩
    · rename_i hending
      exact absurd hending hpanicked
  · exact ⟨none, rfl⟩

def constantEmbedder : Embedder Unit := fun _ memory =>
  (memory, { ending := .value { EmbeddingFindings.fallback with vector := [1.0] } })

lemma constantEmbedder_ending (a : Attempt) (memory : Unit) :
    (constantEmbedder a memory).2.ending ≠ .panicked := by
  simp [constantEmbedder]

end LoginRisk.Learning
