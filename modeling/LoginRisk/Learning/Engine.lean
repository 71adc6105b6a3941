import LoginRisk.Learning.Update

/-!
Running learning jobs: load the profile, change it, save it. Only a saved profile counts as updated.
-/

namespace LoginRisk

structure LearningState where
  profiles : ProfileStore
  stats : LearningStats := {}

namespace Learning

/-- The vector to learn from the work of an embedder; work that fails leaves none. -/
def vectorOf : Ending EmbeddingFindings → Except JobError (Option (List Float32))
  | .value e => .ok (if e.vector.isEmpty then none else some e.vector)
  | .failure _ => .ok none
  | .panicked => .error .panicked

def apply (s : LearningSettings) (now : Instant) (job : LearningJob)
    (vector : Option (List Float32)) (state : LearningState) :
    LearningState × Except JobError Unit :=
  match state.profiles.load job.key with
  | .error e => (state, .error (.store e))
  | .ok known =>
    let (stats, changed) := change s now job vector state.stats (known.getD (.new job.key now))
    let state := { state with stats }
    match changed with
    | .error e => (state, .error e)
    | .ok p =>
      match state.profiles.save p with
      | .error e => (state, .error (.store e))
      | .ok profiles => (⟨profiles, stats.finish job⟩, .ok ())

/-- A way to make the vector of an attempt, with a memory of type `σ`. -/
abbrev Embedder (σ : Type) := Attempt → σ → σ × StageTask EmbeddingFindings

structure JobRun (σ : Type) where
  memory : σ
  state : LearningState
  ending : Except JobError Unit
  delayMs : Nat := 0

def perform {σ : Type} (s : LearningSettings) (embed : Embedder σ) (now : Instant)
    (job : LearningJob) (memory : σ) (state : LearningState) : JobRun σ :=
  if job.needsVector s then
    let (memory, task) := embed job.attempt memory
    match vectorOf task.ending with
    | .error e => ⟨memory, state, .error e, task.delayMs⟩
    | .ok vector =>
      let (state, ending) := apply s now job vector state
      ⟨memory, state, ending, task.delayMs⟩
  else
    let (state, ending) := apply s now job none state
    ⟨memory, state, ending, 0⟩

/-- Runs a job in the background: a store that fails is only counted, and nothing happens while
learning is switched off. -/
def handle {σ : Type} (s : LearningSettings) (embed : Embedder σ) (now : Instant)
    (job : LearningJob) (memory : σ) (state : LearningState) : JobRun σ :=
  if !s.enabled then ⟨memory, state, .ok (), 0⟩
  else
    let run := perform s embed now job memory state
    match run.ending with
    | .error (.store _) =>
      { run with state := { run.state with stats := run.state.stats.fail }, ending := .ok () }
    | _ => run

def recordDropped (state : LearningState) : LearningState :=
  { state with stats := state.stats.drop }

end Learning

end LoginRisk
