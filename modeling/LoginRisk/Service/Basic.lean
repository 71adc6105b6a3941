import LoginRisk.Learning.Engine
import LoginRisk.Pipeline.Analyze
import LoginRisk.Settings.Limits
import LoginRisk.Settings.Validate

/-!
The service: the pipeline, the stored profiles, and the background work that learns from outcomes and
feedback. Analysis works whether or not the background work has been started.
-/

namespace LoginRisk

structure Worker where
  /-- The waiting jobs, the oldest first. -/
  queue : List LearningJob := []
  /-- A job that panics ends the worker, and its waiting jobs with it. -/
  alive : Bool := true

structure Reporter where
  startedAt : Nat
  /-- A cleanup that panics ends it. -/
  alive : Bool := true

structure Service (σ : Type) where
  pipeline : Pipeline σ
  learning : LearningState
  worker : Option Worker := none
  reporter : Option Reporter := none
  /-- Jobs that run on their own because there is no worker. -/
  detached : List LearningJob := []
  timerMs : Nat := 0

inductive CreateError where
  | settings (error : SettingsError)
  /-- Something larger than memory is asked for. -/
  | tooLarge

inductive StartError where
  | queueTooLong
  deriving DecidableEq, Repr

namespace Service

variable {σ : Type}

def initial (analyzers : σ) (profiles : ProfileStore) : Service σ :=
  { pipeline := .initial analyzers, learning := { profiles } }

def create (settings : Settings) (analyzers : σ) (profiles : ProfileStore) :
    Except CreateError (Service σ) := do
  settings.validate.mapError .settings
  if settings.pipelineFits then return initial analyzers profiles else .error .tooLarge

def queueCapacity (settings : Settings) : Nat := max settings.learning.queueCapacity 1

def start (settings : Settings) (s : Service σ) : Except StartError (Service σ) :=
  if s.worker.isSome then .ok s
  else if !settings.learning.fits then .error .queueTooLong
  else .ok { s with worker := some {}, reporter := some { startedAt := s.timerMs } }

def pending (s : Service σ) : Nat :=
  match s.worker with
  | some w => w.queue.length
  | none => 0

def dropJob (s : Service σ) : Service σ := { s with learning := Learning.recordDropped s.learning }

/-- Lets a job run on its own, where that is possible. -/
def detach (canDetach : Bool) (job : LearningJob) (s : Service σ) : Service σ :=
  if canDetach then { s with detached := s.detached ++ [job] } else s.dropJob

/-- Hands a job over: to the worker if its queue has room, else it is dropped; without a worker it runs
on its own. -/
def submit (settings : Settings) (canDetach : Bool) (job : LearningJob) (s : Service σ) : Service σ :=
  match s.worker with
  | none => s.detach canDetach job
  | some w =>
    if !w.alive then s.detach canDetach job
    else if w.queue.length < queueCapacity settings then
      { s with worker := some { w with queue := w.queue ++ [job] } }
    else s.dropJob

/-- Hands over feedback as it is given; feedback that is refused changes nothing. -/
def submitFeedback (settings : Settings) (canDetach : Bool) (a : Attempt)
    (map : List (String × Json)) (s : Service σ) : Service σ :=
  match Feedback.ofMap map with
  | .error _ => s
  | .ok f => s.submit settings canDetach (.feedback a f)

end Service

end LoginRisk
