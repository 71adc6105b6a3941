import LoginRisk.Proofs.Learning.Settled
import LoginRisk.Service.Run
import Mathlib.Data.List.Basic

/-!
A service that is called from many sides at once. A caller first looks for the queue and sends its job
later, so that a shutdown may come in between and must wait for the sender. After a shutdown has taken a
queue, another start makes a new one while the old one is still being drained.

A job has its effect in the step in which it is done. Jobs that are at work side by side change profiles
under one lock, so that they leave what they leave one after another.
-/

namespace LoginRisk.Service

open Learning (panics)

/-- A queue with its worker. What the queue took, and what became of it, is written down. -/
structure Channel where
  worker : Worker := {}
  busy : Option LearningJob := none
  /-- The jobs of callers that have found the queue and not sent them yet. -/
  senders : List LearningJob := []
  closing : Bool := false
  returned : Bool := false
  accepted : List LearningJob := []
  handled : List LearningJob := []
  lost : List LearningJob := []

/-- A service with the queues that have been made. The worker of the service stands with its queue. -/
structure Traffic (σ : Type) where
  service : Service σ
  channels : List Channel := []
  current : Option ℕ := none
  panicked : ℕ := 0

inductive Request where
  | outcome (attempt : Attempt) (success : Bool)
  | feedback (attempt : Attempt) (map : List (String × Json))

/-- The job of a request; there is none for feedback that is refused. -/
def Request.job? : Request → Option LearningJob
  | .outcome a success => some (.outcome a success)
  | .feedback a map =>
    match Feedback.ofMap map with
    | .ok f => some (.feedback a f)
    | .error _ => none

inductive Action (σ : Type) where
  /-- A caller looks for the queue; without one the job runs on its own. -/
  | call (request : Request) (canDetach : Bool)
  /-- A caller sends the job for which it has found a queue. -/
  | send (g i : ℕ) (canDetach : Bool)
  | take (g : ℕ)
  | finish (g : ℕ) (env : Surroundings)
  | finishAlone (i : ℕ) (env : Surroundings)
  | start
  | shutdown
  /-- A shutdown finds the worker of its queue ended, and returns. -/
  | drained (g : ℕ)
  /-- Anything else happens to the pipeline and to the stored profiles, which may begin or cease to fail. -/
  | meanwhile (pipeline : Pipeline σ) (profiles : ProfileStore)

def Action.job? {σ : Type} : Action σ → Option LearningJob
  | .call request _ => request.job?
  | _ => none

namespace Channel

/-- Whether the worker has ended: it panicked, or nothing is left and nobody can send any more. -/
def isOver (c : Channel) : Bool :=
  !c.worker.alive || (c.closing && c.senders.isEmpty && c.worker.queue.isEmpty && c.busy.isNone)

/-- After its worker is done with a job. A worker that panics leaves what waits. -/
def settle (job : LearningJob) (ending : Except JobError Unit) (c : Channel) : Channel :=
  let c := { c with busy := none, handled := c.handled ++ [job] }
  match ending with
  | .ok () => c
  | .error _ => { c with worker := ⟨[], false⟩, lost := c.worker.queue }

end Channel

namespace Traffic

variable {σ : Type}

def initial (analyzers : σ) (profiles : ProfileStore) : Traffic σ :=
  { service := .initial analyzers profiles }

/-- The service as callers find it. -/
def seen (t : Traffic σ) : Service σ :=
  { t.service with worker := (t.current.bind fun g => t.channels[g]?).map Channel.worker }

def put (g : ℕ) (c : Channel) (service : Service σ) (t : Traffic σ) : Traffic σ :=
  { t with service, channels := t.channels.set g c }

def clearCache (s : Service σ) : Service σ :=
  { s with pipeline := { s.pipeline with cache := s.pipeline.cache.clear } }

def call (canDetach : Bool) (job : LearningJob) (t : Traffic σ) : Traffic σ :=
  match t.current with
  | none => { t with service := t.service.detach canDetach job }
  | some g => { t with channels := t.channels.modify g fun c => { c with senders := c.senders ++ [job] } }

/-- A caller hands its job to the queue that it has found, as the service does. What is longer afterwards is
what the queue took. -/
def send? (settings : Settings) (g i : ℕ) (canDetach : Bool) (t : Traffic σ) : Option (Traffic σ) := do
  let c ← t.channels[g]?
  let job ← c.senders[i]?
  let service := { t.service with worker := some c.worker }.submit settings canDetach job
  let worker ← service.worker
  let accepted := c.accepted ++ worker.queue.drop c.worker.queue.length
  return t.put g { c with worker, senders := c.senders.eraseIdx i, accepted } service

def take? (g : ℕ) (t : Traffic σ) : Option (Traffic σ) := do
  let c ← t.channels[g]?
  match c.busy, c.worker with
  | none, ⟨job :: queue, true⟩ =>
    return t.put g { c with worker := ⟨queue, true⟩, busy := some job } t.service
  | _, _ => none

variable (settings : Settings) (A : Analyzers σ)

def finish? (g : ℕ) (env : Surroundings) (t : Traffic σ) : Option (Traffic σ) := do
  let c ← t.channels[g]?
  let job ← c.busy
  let (service, ending, _) := t.service.runJob settings A env job
  return { t.put g (c.settle job ending) service with panicked := t.panicked + panics ending }

def finishAlone? (i : ℕ) (env : Surroundings) (t : Traffic σ) : Option (Traffic σ) := do
  let job ← t.service.detached[i]?
  let (service, ending, _) :=
    { t.service with detached := t.service.detached.eraseIdx i }.runJob settings A env job
  return { t with service, panicked := t.panicked + panics ending }

/-- Starts as the service does, with a new queue. A start that panics changes nothing. -/
def start (t : Traffic σ) : Traffic σ :=
  match t.current, t.seen.start settings with
  | none, .ok s =>
    { t with
      service := s
      channels := t.channels ++ [{ worker := s.worker.getD {} }]
      current := some t.channels.length }
  | _, _ => t

def shutdown (t : Traffic σ) : Traffic σ :=
  match t.current with
  | none => { t with service := clearCache t.service }
  | some g =>
    { t with
      service := { t.service with reporter := none }
      channels := t.channels.modify g fun c => { c with closing := true }
      current := none }

def drained? (g : ℕ) (t : Traffic σ) : Option (Traffic σ) := do
  let c ← t.channels[g]?
  if c.closing && c.isOver then return t.put g { c with returned := true } (clearCache t.service) else none

/-- The state after a step; none when the step cannot be made. -/
def act? (t : Traffic σ) : Action σ → Option (Traffic σ)
  | .call request canDetach =>
    match request.job? with
    | none => some t
    | some job => some (t.call canDetach job)
  | .send g i canDetach => t.send? settings g i canDetach
  | .take g => t.take? g
  | .finish g env => t.finish? settings A g env
  | .finishAlone i env => t.finishAlone? settings A i env
  | .start => some (t.start settings)
  | .shutdown => some t.shutdown
  | .drained g => t.drained? g
  | .meanwhile pipeline profiles =>
    some { t with service := { t.service with pipeline, learning := { t.service.learning with profiles } } }

def run? (actions : List (Action σ)) (t : Traffic σ) : Option (Traffic σ) :=
  actions.foldlM (fun t a => t.act? settings A a) t

section Uninterrupted

variable {settings : Settings} {A : Analyzers σ} {t : Traffic σ} {g : ℕ} {c : Channel}

lemma run?_cons {next : Traffic σ} {a : Action σ} {actions : List (Action σ)}
    (h : t.act? settings A a = some next) :
    t.run? settings A (a :: actions) = next.run? settings A actions := by
  rw [run?, List.foldlM_cons, h]
  rfl

lemma run?_append (first last : List (Action σ)) :
    t.run? settings A (first ++ last) =
      (t.run? settings A first).bind fun next => next.run? settings A last :=
  List.foldlM_append

lemma submit_cases {s : Service σ} {w : Worker} (hworker : s.worker = some w) (settings : Settings)
    (canDetach : Bool) (job : LearningJob) :
    (w.alive = true ∧ w.queue.length < queueCapacity settings ∧
      s.submit settings canDetach job = { s with worker := some { w with queue := w.queue ++ [job] } }) ∨
    (w.alive = true ∧ s.submit settings canDetach job = s.dropJob) ∨
    (w.alive = false ∧ s.submit settings canDetach job = s.detach canDetach job) := by
  unfold submit
  rw [hworker]
  dsimp only
  cases halive : w.alive with
  | false => exact .inr (.inr ⟨rfl, rfl⟩)
  | true =>
    by_cases hroom : w.queue.length < queueCapacity settings
    · rw [if_neg (by simp), if_pos hroom]
      exact .inl ⟨rfl, hroom, rfl⟩
    · rw [if_neg (by simp), if_neg hroom]
      exact .inr (.inl ⟨rfl, rfl⟩)

lemma detach_worker (canDetach : Bool) (job : LearningJob) (s : Service σ) :
    (s.detach canDetach job).worker = s.worker := by
  cases canDetach <;> rfl

lemma submit_worker {s : Service σ} {w : Worker} (hworker : s.worker = some w) (settings : Settings)
    (canDetach : Bool) (job : LearningJob) : ∃ w', (s.submit settings canDetach job).worker = some w' := by
  obtain ⟨-, -, h⟩ | ⟨-, h⟩ | ⟨-, h⟩ := submit_cases hworker settings canDetach job
  · exact ⟨_, congrArg Service.worker h⟩
  · exact ⟨w, (congrArg Service.worker h).trans hworker⟩
  · exact ⟨w, (congrArg Service.worker h).trans ((detach_worker canDetach job s).trans hworker)⟩

lemma getElem?_put (hc : t.channels[g]? = some c) (c' : Channel) (s : Service σ) :
    (t.put g c' s).channels[g]? = some c' := by
  obtain ⟨hlength, -⟩ := List.getElem?_eq_some_iff.mp hc
  exact List.getElem?_set_self hlength

lemma seen_of_current (hcurrent : t.current = some g) (hc : t.channels[g]? = some c) :
    t.seen = { t.service with worker := some c.worker } := by
  simp [seen, hcurrent, hc]

lemma seen_put (hcurrent : t.current = some g) (hc : t.channels[g]? = some c) (c' : Channel) (s : Service σ) :
    (t.put g c' s).seen = { s with worker := some c'.worker } :=
  have hput : (t.put g c' s).current = some g := hcurrent
  seen_of_current hput (getElem?_put hc c' s)

/-- A call that finds no queue is what the service does with its job. -/
theorem seen_call_of_none (hcurrent : t.current = none) (canDetach : Bool) (job : LearningJob) :
    (t.call canDetach job).seen = t.seen.submit settings canDetach job := by
  have hseen : t.seen = { t.service with worker := none } := by
    simp [seen, hcurrent]
  rw [hseen]
  unfold call submit seen detach dropJob
  simp only [hcurrent]
  cases canDetach <;> simp

lemma call_of_current (hcurrent : t.current = some g) (hc : t.channels[g]? = some c) (canDetach : Bool)
    (job : LearningJob) :
    t.call canDetach job = t.put g { c with senders := c.senders ++ [job] } t.service := by
  simp only [call, hcurrent, List.modify_eq_set_getElem?, hc]
  simp [put, hcurrent]

lemma shutdown_of_current (hcurrent : t.current = some g) (hc : t.channels[g]? = some c) :
    t.shutdown = { t.put g { c with closing := true } { t.service with reporter := none } with
      current := none } := by
  simp only [shutdown, hcurrent, List.modify_eq_set_getElem?, hc]
  rfl

lemma start_of_none (hcurrent : t.current = none) {s : Service σ} (hstart : t.seen.start settings = .ok s) :
    s.worker = some {} ∧ t.start settings =
      { t with service := s, channels := t.channels ++ [{}], current := some t.channels.length } := by
  have hworker : s.worker = some {} := by
    have hnone : t.seen.worker = none := by simp [seen, hcurrent]
    simp only [Service.start, hnone, Option.isSome_none, Bool.false_eq_true, if_false] at hstart
    split at hstart <;> cases hstart
    rfl
  refine ⟨hworker, ?_⟩
  simp only [start, hcurrent, hstart, hworker, Option.getD_some]

/-- A start does what the service does, unless that panics. -/
theorem seen_start (hfound : ∀ g, t.current = some g → ∃ c, t.channels[g]? = some c) {s : Service σ}
    (hstart : t.seen.start settings = .ok s) : (t.start settings).seen = s := by
  cases hcurrent : t.current with
  | none =>
    obtain ⟨hworker, hstarted⟩ := start_of_none hcurrent hstart
    rw [hstarted]
    simp only [seen, Option.bind_some, List.getElem?_concat_length, Option.map_some]
    rw [← hworker]
  | some g =>
    obtain ⟨c, hc⟩ := hfound g hcurrent
    have hsome : t.seen.worker.isSome = true := by simp [seen, hcurrent, hc]
    simp only [Service.start, hsome, if_true, Except.ok.injEq] at hstart
    simp only [start, hcurrent, ← hstart]

lemma send?_eq {i : ℕ} {canDetach : Bool} {job : LearningJob} {s : Service σ} {w : Worker}
    (hc : t.channels[g]? = some c) (hjob : c.senders[i]? = some job)
    (hs : submit settings canDetach job { t.service with worker := some c.worker } = s)
    (hw : s.worker = some w) :
    t.send? settings g i canDetach = some (t.put g { c with
      worker := w
      senders := c.senders.eraseIdx i
      accepted := c.accepted ++ w.queue.drop c.worker.queue.length } s) := by
  subst hs
  simp [send?, hc, hjob, hw]

/-- A call that nothing interrupts is what the service does with its job. -/
theorem send?_call (hcurrent : t.current = some g) (hc : t.channels[g]? = some c) (canDetach : Bool)
    (job : LearningJob) :
    ∃ sent, (t.call canDetach job).send? settings g c.senders.length canDetach = some sent ∧
      sent.seen = t.seen.submit settings canDetach job := by
  obtain ⟨w, hw⟩ := submit_worker (s := { t.service with worker := some c.worker }) rfl settings canDetach job
  have hjob : (c.senders ++ [job])[c.senders.length]? = some job := List.getElem?_concat_length
  let called := t.put g { c with senders := c.senders ++ [job] } t.service
  have hcalled : called.current = some g := hcurrent
  have hsenders : called.channels[g]? = some { c with senders := c.senders ++ [job] } := getElem?_put hc ..
  rw [call_of_current hcurrent hc, seen_of_current hcurrent hc]
  refine ⟨_, send?_eq hsenders hjob rfl hw, (seen_put hcalled hsenders _ _).trans ?_⟩
  dsimp only
  rw [← hw]
  rfl

lemma take?_eq {job : LearningJob} {queue : List LearningJob} (hc : t.channels[g]? = some c)
    (hidle : c.busy = none) (hworker : c.worker = ⟨job :: queue, true⟩) :
    t.take? g = some (t.put g { c with worker := ⟨queue, true⟩, busy := some job } t.service) := by
  simp [take?, hc, hidle, hworker]

lemma finish?_eq {env : Surroundings} {job : LearningJob} {s : Service σ} {ending : Except JobError Unit}
    {delayMs : ℕ} (hc : t.channels[g]? = some c) (hbusy : c.busy = some job)
    (hrun : t.service.runJob settings A env job = (s, ending, delayMs)) :
    t.finish? settings A g env =
      some { t.put g (c.settle job ending) s with panicked := t.panicked + panics ending } := by
  simp [finish?, hc, hbusy, hrun]

lemma runJob_worker (env : Surroundings) (job : LearningJob) (worker : Option Worker) (s : Service σ) :
    runJob settings A env job { s with worker } =
      ({ (runJob settings A env job s).1 with worker }, (runJob settings A env job s).2) := rfl

/-- A job that a worker takes and runs while nothing else happens is a step of the worker. -/
theorem finish?_take? (hcurrent : t.current = some g) (hc : t.channels[g]? = some c) (hidle : c.busy = none)
    {job : LearningJob} {queue : List LearningJob} (hworker : c.worker = ⟨job :: queue, true⟩)
    (env : Surroundings) :
    ∃ done delayMs, (t.take? g).bind (finish? settings A g env) = some done ∧
      workerStep settings A env t.seen = done.seen.advance settings A env delayMs := by
  let taken := t.put g { c with worker := ⟨queue, true⟩, busy := some job } t.service
  have htaken : taken.current = some g := hcurrent
  have hbusy : taken.channels[g]? = some { c with worker := ⟨queue, true⟩, busy := some job } :=
    getElem?_put hc ..
  obtain ⟨s, ending, delayMs, hrun⟩ : ∃ s ending delayMs,
      t.service.runJob settings A env job = (s, ending, delayMs) := ⟨_, _, _, rfl⟩
  rw [take?_eq hc hidle hworker, Option.bind_some]
  refine ⟨_, delayMs, finish?_eq hbusy rfl hrun, ?_⟩
  have hdone := seen_put htaken hbusy
    (Channel.settle job ending { c with worker := ⟨queue, true⟩, busy := some job }) s
  have hworks : runJob settings A env job { t.service with worker := some ⟨queue, true⟩ } =
      ({ s with worker := some ⟨queue, true⟩ }, ending, delayMs) := by
    rw [runJob_worker, hrun]
  rw [seen_of_current hcurrent hc, hworker]
  simp only [workerStep, hworks]
  refine congrArg (advance settings A env delayMs) (Eq.trans ?_ hdone.symm)
  cases ending <;> rfl

lemma advance_zero (env : Surroundings) (s : Service σ) : s.advance settings A env 0 = s := by
  obtain ⟨pipeline, learning, worker, reporter, detached, timerMs⟩ := s
  cases reporter <;> simp [advance]

lemma handle_delayMs {embed : Learning.Embedder σ} (hdelay : ∀ a memory, (embed a memory).2.delayMs = 0)
    (s : LearningSettings) (now : Instant) (job : LearningJob) (memory : σ) (state : LearningState) :
    (Learning.handle s embed now job memory state).delayMs = 0 := by
  have hperform : (Learning.perform s embed now job memory state).delayMs = 0 := by
    unfold Learning.perform
    split
    · dsimp only
      split <;> exact hdelay job.attempt memory
    · rfl
  unfold Learning.handle
  split
  · rfl
  · dsimp only
    split <;> exact hperform

lemma drain_cons {env : Surroundings} {ms : ℕ} (hdelay : ∀ a memory, (A.embed a memory).2.delayMs = 0)
    (hms : 0 < ms) (job : LearningJob) (queue : List LearningJob) (s : Service σ) :
    drain settings A env ms (job :: queue) s = match (s.runJob settings A env job).2.1 with
      | .ok () => drain settings A env ms queue (s.runJob settings A env job).1
      | .error _ => (s.runJob settings A env job).1 := by
  obtain ⟨done, ending, delayMs, hrun⟩ : ∃ done ending delayMs,
      s.runJob settings A env job = (done, ending, delayMs) := ⟨_, _, _, rfl⟩
  obtain rfl : delayMs = 0 := by
    have hzero : (s.runJob settings A env job).2.2 = 0 := handle_delayMs hdelay ..
    rwa [hrun] at hzero
  have hnonzero : ms ≠ 0 := by omega
  have hwithin : ¬ms ≤ 0 := by omega
  cases ending <;> simp only [drain, if_neg hnonzero, hrun, if_neg hwithin, advance_zero, Nat.sub_zero]

/-- A drain without waiting looks at neither the worker nor the cleanup. -/
lemma drain_frame (settings : Settings) (env : Surroundings) {ms : ℕ}
    (hdelay : ∀ a memory, (A.embed a memory).2.delayMs = 0) (hms : 0 < ms) (queue : List LearningJob)
    (worker : Option Worker) (reporter : Option Reporter) (s : Service σ) :
    drain settings A env ms queue { s with worker, reporter } =
      { drain settings A env ms queue s with worker, reporter } := by
  induction queue generalizing s with
  | nil => rfl
  | cons job queue ih =>
    rw [drain_cons hdelay hms, drain_cons hdelay hms]
    have hrun : runJob settings A env job { s with worker, reporter } =
        ({ (runJob settings A env job s).1 with worker, reporter }, (runJob settings A env job s).2) := rfl
    rw [hrun]
    cases hending : (runJob settings A env job s).2.1 with
    | ok _ => exact ih _
    | error e => rfl

/-- A worker alone drains its queue as the service does. -/
lemma run?_drain (settings : Settings) {ms : ℕ} (hdelay : ∀ a memory, (A.embed a memory).2.delayMs = 0)
    (hms : 0 < ms) (env : Surroundings) {queue : List LearningJob} (hc : t.channels[g]? = some c)
    (hclosing : c.closing = true) (hsenders : c.senders = []) (hidle : c.busy = none)
    (hworker : c.worker = ⟨queue, true⟩) :
    ∃ (work : List (Action σ)) (last : Traffic σ) (d : Channel), t.run? settings A work = some last ∧
      last.channels[g]? = some d ∧ d.closing = true ∧ d.isOver = true ∧ last.current = t.current ∧
      last.service = drain settings A env ms queue t.service := by
  induction queue generalizing t c with
  | nil => exact ⟨[], t, c, rfl, hc, hclosing, by simp [Channel.isOver, *], rfl, rfl⟩
  | cons job queue ih =>
    let taken := t.put g { c with worker := ⟨queue, true⟩, busy := some job } t.service
    have hbusy : taken.channels[g]? = some { c with worker := ⟨queue, true⟩, busy := some job } :=
      getElem?_put hc ..
    obtain ⟨s, ending, delayMs, hrun⟩ : ∃ s ending delayMs,
        t.service.runJob settings A env job = (s, ending, delayMs) := ⟨_, _, _, rfl⟩
    have htake : t.act? settings A (.take g) = some taken := take?_eq hc hidle hworker
    have hfinish : taken.act? settings A (.finish g env) = some _ := finish?_eq hbusy rfl hrun
    have hdone := getElem?_put hbusy
      (Channel.settle job ending { c with worker := ⟨queue, true⟩, busy := some job }) s
    rw [drain_cons hdelay hms, hrun]
    cases ending with
    | ok _ =>
      obtain ⟨work, last, d, hwork, hlast⟩ := ih hdone hclosing hsenders rfl rfl
      exact ⟨_, last, d, (run?_cons htake).trans ((run?_cons hfinish).trans hwork), hlast⟩
    | error e =>
      exact ⟨[.take g, .finish g env], _, _, (run?_cons htake).trans (run?_cons hfinish), hdone, hclosing,
        rfl, rfl, rfl⟩

/-- A shutdown that nothing interrupts, where jobs do not wait, is the shutdown of the service. -/
theorem run?_shutdown (hdelay : ∀ a memory, (A.embed a memory).2.delayMs = 0)
    (htimeout : 0 < settings.learning.drainTimeoutSeconds) (hcurrent : t.current = some g)
    (hc : t.channels[g]? = some c) (hsenders : c.senders = []) (hidle : c.busy = none)
    (halive : c.worker.alive = true) (env : Surroundings) :
    ∃ (actions : List (Action σ)) (last : Traffic σ), t.run? settings A actions = some last ∧
      last.seen = t.seen.shutdown settings A env := by
  have hms : 0 < settings.learning.drainTimeoutSeconds * 1000 := by omega
  have hworker : c.worker = ⟨c.worker.queue, true⟩ := by
    rw [← halive]
  have hclosed : t.shutdown.channels[g]? = some { c with closing := true } := by
    rw [shutdown_of_current hcurrent hc]
    exact getElem?_put hc _ t.service
  obtain ⟨work, last, d, hwork, hd, hclosing, hover, hnone, hservice⟩ :=
    run?_drain settings hdelay hms env hclosed rfl hsenders hidle hworker
  have hdrained : last.act? settings A (.drained g) =
      some (last.put g { d with returned := true } (clearCache last.service)) := by
    simp [act?, drained?, hd, hclosing, hover]
  refine ⟨.shutdown :: (work ++ [.drained g]),
    last.put g { d with returned := true } (clearCache last.service), ?_, ?_⟩
  · have hshutdown : t.act? settings A .shutdown = some t.shutdown := rfl
    rw [run?_cons hshutdown, run?_append, hwork, Option.bind_some, run?_cons hdrained]
    rfl
  · have hleft : last.service = { drain settings A env (settings.learning.drainTimeoutSeconds * 1000)
        c.worker.queue t.service with worker := t.service.worker, reporter := none } := by
      rw [hservice, ← drain_frame settings env hdelay hms]
      simp only [shutdown_of_current hcurrent hc]
      rfl
    have hseen : (last.put g { d with returned := true } (clearCache last.service)).seen =
        { clearCache last.service with worker := none } := by
      simp [seen, put, hnone, shutdown_of_current hcurrent hc]
    have hwhole := drain_frame settings env hdelay hms c.worker.queue none t.service.reporter t.service
    rw [hseen, hleft, seen_of_current hcurrent hc]
    simp only [Service.shutdown, Option.map_some, Option.getD_some, hwhole]
    rfl

end Uninterrupted

end Traffic

end LoginRisk.Service
