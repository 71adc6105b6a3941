import LoginRisk.Service.Basic

/-!
What happens to a service over time: attempts are analyzed, jobs run, the timer goes on, and the
service is shut down.
-/

namespace LoginRisk.Service

variable {σ : Type}

def cleanupPeriodMs (settings : Settings) : Nat :=
  max settings.metrics.cleanupIntervalSeconds 1 * 1000

def tick (settings : Settings) (A : Analyzers σ) (env : Surroundings) (r : Reporter) (s : Service σ) :
    Service σ :=
  let (pipeline, cleaned) := s.pipeline.cleanup settings A env
  { s with
    pipeline
    reporter := some (match cleaned with
      | .ok () => r
      | .error _ => { r with alive := false }) }

/-- Lets the timer go on. However many periods end meanwhile, one cleanup does for all of them. -/
def advance (settings : Settings) (A : Analyzers σ) (env : Surroundings) (ms : Nat) (s : Service σ) :
    Service σ :=
  let later := { s with timerMs := s.timerMs + ms }
  match s.reporter with
  | none => later
  | some r =>
    let periods (timer : Nat) : Nat := (timer - r.startedAt) / cleanupPeriodMs settings
    if r.alive && periods s.timerMs < periods later.timerMs then later.tick settings A env r else later

/-- Analyzes one attempt. The timer goes on, and a cleanup may come, while the stages wait. -/
def analyze (settings : Settings) (A : Analyzers σ) (env : Surroundings) (a : Attempt)
    (s : Service σ) : Service σ × Reply σ :=
  let reply (s : Service σ) (r : Reply σ) : Service σ × Reply σ := ({ s with pipeline := r.pipeline }, r)
  match s.pipeline.begin settings A s.learning.profiles env a with
  | .answered r => reply s r
  | .running key runs delayMs pipeline =>
    let s := { s with pipeline }.advance settings A env delayMs
    reply s (s.pipeline.conclude settings env a key runs)

def runJob (settings : Settings) (A : Analyzers σ) (env : Surroundings) (job : LearningJob)
    (s : Service σ) : Service σ × Except JobError Unit × Nat :=
  let run := Learning.handle settings.learning A.embed env.now job s.pipeline.analyzers s.learning
  ({ s with pipeline := { s.pipeline with analyzers := run.memory }, learning := run.state },
    run.ending, run.delayMs)

def workerStep (settings : Settings) (A : Analyzers σ) (env : Surroundings) (s : Service σ) :
    Service σ :=
  match s.worker with
  | some { queue := job :: rest, alive } =>
    let (s, ending, delayMs) :=
      { s with worker := some { queue := rest, alive } }.runJob settings A env job
    let s :=
      match ending with
      | .ok () => s
      | .error _ => { s with worker := some { queue := [], alive := false } }
    s.advance settings A env delayMs
  | _ => s

def detachedStep (settings : Settings) (A : Analyzers σ) (env : Surroundings) (s : Service σ) :
    Service σ :=
  match s.detached with
  | [] => s
  | job :: rest =>
    let (s, _, delayMs) := { s with detached := rest }.runJob settings A env job
    s.advance settings A env delayMs

def settle (settings : Settings) (A : Analyzers σ) (env : Surroundings) (s : Service σ) : Service σ :=
  let s := s.detached.length.repeat (detachedStep settings A env) s
  s.pending.repeat (workerStep settings A env) s

/-- Runs waiting jobs for a limited time. A job that is not finished by then leaves only what the
embedder remembers of it, and those behind it are lost. -/
def drain (settings : Settings) (A : Analyzers σ) (env : Surroundings) (remainingMs : Nat) :
    List LearningJob → Service σ → Service σ
  | [], s => s
  | job :: rest, s =>
    if remainingMs = 0 then s
    else
      let (done, ending, delayMs) := s.runJob settings A env job
      if remainingMs ≤ delayMs then
        { s with pipeline := { s.pipeline with analyzers := done.pipeline.analyzers } }.advance settings
          A env remainingMs
      else
        let done := done.advance settings A env delayMs
        match ending with
        | .ok () => drain settings A env (remainingMs - delayMs) rest done
        | .error _ => done

/-- Ends the background work, running waiting jobs for a limited time, and empties the cache. -/
def shutdown (settings : Settings) (A : Analyzers σ) (env : Surroundings) (s : Service σ) :
    Service σ :=
  let waiting := (s.worker.map Worker.queue).getD []
  let s := drain settings A env (settings.learning.drainTimeoutSeconds * 1000) waiting
    { s with worker := none }
  { s with
    reporter := none
    pipeline := { s.pipeline with cache := s.pipeline.cache.clear } }

end LoginRisk.Service
