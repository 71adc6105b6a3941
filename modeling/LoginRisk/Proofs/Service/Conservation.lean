import LoginRisk.Proofs.Service.Traffic
import Mathlib.Algebra.BigOperators.Group.List.Basic

/-!
No job gets lost in a service that is called from many sides. Every job that has been submitted is counted
once, or waits, or is at work, and each queue hands its jobs over in the order in which it took them.
-/

namespace LoginRisk.Service

open Learning (panics)

variable {σ : Type}

/-- The jobs that are counted or run on their own. -/
def counted (s : Service σ) : ℕ :=
  s.learning.stats.settled + s.learning.stats.droppedJobs + s.detached.length

lemma counted_dropJob (s : Service σ) : s.dropJob.counted = s.counted + 1 := by
  simp only [counted, dropJob, Learning.recordDropped, LearningStats.drop, LearningStats.settled]
  omega

lemma counted_detach (canDetach : Bool) (job : LearningJob) (s : Service σ) :
    (s.detach canDetach job).counted = s.counted + 1 := by
  cases canDetach with
  | false => exact counted_dropJob s
  | true => simp [counted, detach, Nat.add_assoc]

lemma counted_runJob {settings : Settings} {A : Analyzers σ} {env : Surroundings} {job : LearningJob}
    {s s' : Service σ} {ending : Except JobError Unit} {delayMs : ℕ}
    (henabled : settings.learning.enabled = true) (h : s.runJob settings A env job = (s', ending, delayMs)) :
    s'.counted + panics ending = s.counted + 1 := by
  obtain ⟨hsettled, hdropped⟩ :=
    Learning.settled_handle henabled A.embed env.now job s.pipeline.analyzers s.learning
  simp only [runJob, Prod.mk.injEq] at h
  obtain ⟨rfl, rfl, -⟩ := h
  simp only [counted] at hsettled ⊢
  omega

namespace Channel

/-- The jobs that are in the hands of a queue. -/
def weight (c : Channel) : ℕ :=
  c.senders.length + c.worker.queue.length + c.busy.toList.length + c.lost.length

/-- What holds of a queue at any time: it passes jobs on in the order in which it took them, and is empty
once its shutdown has returned. -/
structure Orderly (capacity : ℕ) (c : Channel) : Prop where
  order : c.accepted = c.handled ++ c.busy.toList ++ c.worker.queue ++ c.lost
  bounded : c.worker.queue.length ≤ capacity
  alive : c.worker.alive = true → c.lost = []
  dead : c.worker.alive = false → c.busy = none ∧ c.worker.queue = []
  returned : c.returned = true → c.closing = true ∧ c.isOver = true

variable {capacity : ℕ} {c : Channel}

lemma orderly_new (capacity : ℕ) : Orderly capacity {} :=
  ⟨rfl, Nat.zero_le _, fun _ => rfl, by simp, by simp⟩

lemma isOver_iff : c.isOver = true ↔ c.worker.alive = false ∨
    (c.closing = true ∧ c.senders = [] ∧ c.worker.queue = [] ∧ c.busy = none) := by
  simp [isOver, and_assoc]

namespace Orderly

lemma addSender (h : c.Orderly capacity) (hopen : c.closing = false) (job : LearningJob) :
    ({ c with senders := c.senders ++ [job] } : Channel).Orderly capacity := by
  refine ⟨h.order, h.bounded, h.alive, h.dead, fun hreturned => ?_⟩
  rw [(h.returned hreturned).1] at hopen
  cases hopen

lemma close (h : c.Orderly capacity) : ({ c with closing := true } : Channel).Orderly capacity := by
  refine ⟨h.order, h.bounded, h.alive, h.dead, fun hreturned => ⟨rfl, ?_⟩⟩
  obtain ⟨hclosing, hover⟩ := h.returned hreturned
  rw [isOver_iff] at hover ⊢
  exact hover.imp_right fun hempty => ⟨rfl, hempty.2⟩

lemma returns (h : c.Orderly capacity) (hclosing : c.closing = true) (hover : c.isOver = true) :
    ({ c with returned := true } : Channel).Orderly capacity :=
  ⟨h.order, h.bounded, h.alive, h.dead, fun _ => ⟨hclosing, hover⟩⟩

lemma removeSender (h : c.Orderly capacity) (i : ℕ) :
    ({ c with senders := c.senders.eraseIdx i } : Channel).Orderly capacity := by
  refine ⟨h.order, h.bounded, h.alive, h.dead, fun hreturned => ?_⟩
  obtain ⟨hclosing, hover⟩ := h.returned hreturned
  refine ⟨hclosing, ?_⟩
  rw [isOver_iff] at hover ⊢
  obtain hdead | ⟨-, hsenders, hempty⟩ := hover
  · exact .inl hdead
  · exact .inr ⟨hclosing, by simp [hsenders], hempty⟩

lemma accept (h : c.Orderly capacity) {job : LearningJob} (hsender : job ∈ c.senders)
    (halive : c.worker.alive = true) (hroom : c.worker.queue.length < capacity) :
    ({ c with
      worker := { c.worker with queue := c.worker.queue ++ [job] }
      accepted := c.accepted ++ [job] } : Channel).Orderly capacity := by
  refine ⟨?_, by simpa using hroom, h.alive, fun hdead => ?_, fun hreturned => ?_⟩
  · simp [h.order, h.alive halive]
  · rw [halive] at hdead
    cases hdead
  · obtain hdead | ⟨-, hsenders, -⟩ := isOver_iff.mp (h.returned hreturned).2
    · rw [halive] at hdead
      cases hdead
    · rw [hsenders] at hsender
      cases hsender

lemma take (h : c.Orderly capacity) {job : LearningJob} {queue : List LearningJob} (hidle : c.busy = none)
    (hworker : c.worker = ⟨job :: queue, true⟩) :
    ({ c with worker := ⟨queue, true⟩, busy := some job } : Channel).Orderly capacity := by
  have horder := h.order
  have hbounded := h.bounded
  have hlost : c.lost = [] := h.alive (congrArg Worker.alive hworker)
  rw [hworker] at horder hbounded
  refine ⟨?_, (Nat.le_succ _).trans hbounded, fun _ => hlost, by simp, fun hreturned => ?_⟩
  · simpa [hidle] using horder
  · have hover := (h.returned hreturned).2
    simp [isOver_iff, hworker] at hover

lemma alive_of_busy (h : c.Orderly capacity) {job : LearningJob} (hbusy : c.busy = some job) :
    c.worker.alive = true := by
  by_contra hdead
  rw [Bool.not_eq_true] at hdead
  rw [(h.dead hdead).1] at hbusy
  cases hbusy

lemma settle (h : c.Orderly capacity) {job : LearningJob} (hbusy : c.busy = some job)
    (ending : Except JobError Unit) : (c.settle job ending).Orderly capacity := by
  have halive := h.alive_of_busy hbusy
  have hlost := h.alive halive
  have horder := h.order
  have hreturned : c.returned = false := by
    by_contra hreturned
    rw [Bool.not_eq_false] at hreturned
    have hover := (h.returned hreturned).2
    simp [isOver_iff, halive, hbusy] at hover
  rw [hbusy, hlost] at horder
  cases ending with
  | ok _ =>
    refine ⟨?_, h.bounded, h.alive, ?_, ?_⟩
    · simpa [Channel.settle, hlost] using horder
    · simp [Channel.settle, halive]
    · simp [Channel.settle, hreturned]
  | error e =>
    refine ⟨?_, Nat.zero_le _, ?_, ?_, ?_⟩
    · simpa [Channel.settle] using horder
    · simp [Channel.settle]
    · simp [Channel.settle]
    · simp [Channel.settle, hreturned]

lemma weight_settle (h : c.Orderly capacity) {job : LearningJob} (hbusy : c.busy = some job)
    (ending : Except JobError Unit) : (c.settle job ending).weight + 1 = c.weight := by
  have hlost := h.alive (h.alive_of_busy hbusy)
  cases ending <;> simp [weight, Channel.settle, hbusy, hlost]

end Orderly

lemma closing_settle (job : LearningJob) (ending : Except JobError Unit) (c : Channel) :
    (c.settle job ending).closing = c.closing := by
  cases ending <;> rfl

lemma alive_settle {job : LearningJob} {ending : Except JobError Unit} (h : c.worker.alive = true)
    (hdead : (c.settle job ending).worker.alive = false) : 0 < panics ending := by
  cases ending with
  | ok _ =>
    rw [show (c.settle job (.ok ())).worker = c.worker from rfl, h] at hdead
    cases hdead
  | error e => exact Nat.one_pos

end Channel

lemma sum_map_set {α : Type} {items : List α} {g : ℕ} {a : α} (h : items[g]? = some a) (f : α → ℕ) (b : α) :
    ((items.set g b).map f).sum + f a = (items.map f).sum + f b := by
  induction items generalizing g with
  | nil => cases h
  | cons first items ih =>
    cases g with
    | zero =>
      cases h
      simp only [List.set_cons_zero, List.map_cons, List.sum_cons]
      omega
    | succ g =>
      have hrest := ih (g := g) (by simpa using h)
      simp only [List.set_cons_succ, List.map_cons, List.sum_cons]
      omega

namespace Traffic

/-- What holds at any time when some jobs have been submitted: each is counted, or panicked, or is in the
hands of a queue, and callers find a queue that nobody closes. -/
structure Orderly (settings : Settings) (submitted : ℕ) (t : Traffic σ) : Prop where
  balance : submitted = t.service.counted + t.panicked + (t.channels.map Channel.weight).sum
  channels : ∀ c ∈ t.channels, c.Orderly (queueCapacity settings)
  current : ∀ g, t.current = some g → ∃ c, t.channels[g]? = some c ∧ c.closing = false
  panicked : ∀ c ∈ t.channels, c.worker.alive = false → 0 < t.panicked

namespace Orderly

variable {settings : Settings} {A : Analyzers σ} {submitted : ℕ} {t t' : Traffic σ} {g : ℕ} {c c' : Channel}

lemma initial (analyzers : σ) (profiles : ProfileStore) :
    Orderly settings 0 (Traffic.initial analyzers profiles) :=
  ⟨rfl, by simp [Traffic.initial], by simp [Traffic.initial], by simp [Traffic.initial]⟩

/-- The service changes, and one queue; callers find the queue that they found before, if they find one. -/
lemma put (h : Orderly settings submitted t) (hc : t.channels[g]? = some c) {s : Service σ} {n panicked : ℕ}
    {current : Option ℕ} (horderly : c'.Orderly (queueCapacity settings))
    (hcurrent : ∀ f, current = some f → t.current = some f ∧ c'.closing = c.closing)
    (hpanicked : t.panicked ≤ panicked) (hdead : c'.worker.alive = false → 0 < panicked)
    (hbalance :
      n + (t.service.counted + t.panicked + c.weight) = submitted + (s.counted + panicked + c'.weight)) :
    Orderly settings n { t.put g c' s with panicked, current } := by
  refine ⟨?_, fun d hd => ?_, fun f hf => ?_, fun d hd hdead' => ?_⟩
  · have hsum := sum_map_set hc Channel.weight c'
    have hbefore := h.balance
    simp only [Traffic.put]
    omega
  · obtain hd | rfl := List.mem_or_eq_of_mem_set hd
    · exact h.channels d hd
    · exact horderly
  · obtain ⟨hfound, hclosing⟩ := hcurrent f hf
    obtain ⟨d, hd, hopen⟩ := h.current f hfound
    by_cases hfg : f = g
    · subst hfg
      rw [hc, Option.some.injEq] at hd
      subst hd
      exact ⟨c', getElem?_put hc c' s, hclosing.trans hopen⟩
    · exact ⟨d, (List.getElem?_set_ne (Ne.symm hfg)).trans hd, hopen⟩
  · obtain hd | rfl := List.mem_or_eq_of_mem_set hd
    · exact (h.panicked d hd hdead').trans_le hpanicked
    · exact hdead hdead'

lemma service (h : Orderly settings submitted t) {s : Service σ} {n panicked : ℕ}
    (hpanicked : t.panicked ≤ panicked)
    (hbalance : n + (t.service.counted + t.panicked) = submitted + (s.counted + panicked)) :
    Orderly settings n { t with service := s, panicked } := by
  refine ⟨?_, h.channels, h.current, fun c hc hdead => (h.panicked c hc hdead).trans_le hpanicked⟩
  have hbefore := h.balance
  simp only
  omega

lemma channel (h : Orderly settings submitted t) (hc : t.channels[g]? = some c) :
    c.Orderly (queueCapacity settings) ∧ (c.worker.alive = false → 0 < t.panicked) :=
  have hmem : c ∈ t.channels := List.mem_of_getElem? hc
  ⟨h.channels c hmem, h.panicked c hmem⟩

lemma call (h : Orderly settings submitted t) (canDetach : Bool) (job : LearningJob) :
    Orderly settings (submitted + 1) (t.call canDetach job) := by
  cases hcurrent : t.current with
  | none =>
    have hcounted := counted_detach canDetach job t.service
    simp only [Traffic.call, hcurrent]
    rw [← hcurrent]
    exact h.service le_rfl (by omega)
  | some g =>
    obtain ⟨c, hc, hopen⟩ := h.current g hcurrent
    obtain ⟨horderly, hdead⟩ := h.channel hc
    rw [call_of_current hcurrent hc]
    refine h.put hc (s := t.service) (horderly.addSender hopen job) (fun f hf => ⟨hf, rfl⟩) le_rfl hdead ?_
    simp only [Channel.weight, List.length_append, List.length_singleton]
    omega

lemma send (h : Orderly settings submitted t) {i : ℕ} {canDetach : Bool}
    (hsend : t.send? settings g i canDetach = some t') : Orderly settings submitted t' := by
  simp only [send?, Option.bind_eq_bind, Option.bind_eq_some_iff, Option.pure_def, Option.some.injEq] at hsend
  obtain ⟨c, hc, job, hjob, w, hw, rfl⟩ := hsend
  obtain ⟨horderly, hdead⟩ := h.channel hc
  have hsender : job ∈ c.senders := List.mem_of_getElem? hjob
  have hsenders : (c.senders.eraseIdx i).length + 1 = c.senders.length := by
    obtain ⟨hlength, -⟩ := List.getElem?_eq_some_iff.mp hjob
    rw [List.length_eraseIdx_of_lt hlength]
    omega
  -- A job that the queue does not take is counted or runs on its own.
  have hrefused (s : Service σ)
      (heq : submit settings canDetach job { t.service with worker := some c.worker } = s)
      (hworker : s.worker = some c.worker) (hcounted : s.counted = t.service.counted + 1) :
      Orderly settings submitted (t.put g { c with
        worker := w
        senders := c.senders.eraseIdx i
        accepted := c.accepted ++ w.queue.drop c.worker.queue.length }
        (submit settings canDetach job { t.service with worker := some c.worker })) := by
    rw [heq, hworker, Option.some.injEq] at hw
    subst hw
    rw [heq, List.drop_length, List.append_nil]
    refine h.put hc (horderly.removeSender i) (fun f hf => ⟨hf, rfl⟩) le_rfl hdead ?_
    simp only [Channel.weight]
    omega
  obtain ⟨halive, hroom, heq⟩ | ⟨-, heq⟩ | ⟨-, heq⟩ :=
    submit_cases (s := { t.service with worker := some c.worker }) rfl settings canDetach job
  · rw [heq, Option.some.injEq] at hw
    subst hw
    rw [heq, List.drop_left]
    have haccepted := (horderly.accept hsender halive hroom).removeSender i
    refine h.put hc haccepted (fun f hf => ⟨hf, rfl⟩) le_rfl hdead ?_
    simp [Channel.weight, counted]
    omega
  · exact hrefused _ heq rfl (counted_dropJob _)
  · exact hrefused _ heq (detach_worker canDetach job _) (counted_detach canDetach job _)

lemma take (h : Orderly settings submitted t) (htake : t.take? g = some t') :
    Orderly settings submitted t' := by
  simp only [take?, Option.bind_eq_bind, Option.bind_eq_some_iff] at htake
  obtain ⟨c, hc, htake⟩ := htake
  obtain ⟨horderly, hdead⟩ := h.channel hc
  split at htake
  · rename_i job queue hidle hworker
    cases htake
    refine h.put hc (horderly.take hidle hworker) (fun f hf => ⟨hf, rfl⟩) le_rfl (by simp) ?_
    simp [Channel.weight, hidle, hworker]
    omega
  · cases htake

lemma finish (h : Orderly settings submitted t) (henabled : settings.learning.enabled = true)
    {env : Surroundings} (hfinish : t.finish? settings A g env = some t') :
    Orderly settings submitted t' := by
  simp only [finish?, Option.bind_eq_bind, Option.bind_eq_some_iff, Option.pure_def, Option.some.injEq]
    at hfinish
  obtain ⟨c, hc, job, hbusy, rfl⟩ := hfinish
  obtain ⟨horderly, -⟩ := h.channel hc
  obtain ⟨s, ending, delayMs, hrun⟩ : ∃ s ending delayMs,
      t.service.runJob settings A env job = (s, ending, delayMs) := ⟨_, _, _, rfl⟩
  have hcounted := counted_runJob henabled hrun
  have hweight := horderly.weight_settle hbusy ending
  have halive := horderly.alive_of_busy hbusy
  rw [hrun]
  dsimp only
  refine h.put hc (horderly.settle hbusy ending) (fun f hf => ⟨hf, Channel.closing_settle job ending c⟩)
    (Nat.le_add_right _ _) (fun hdead => ?_) (by omega)
  exact Nat.add_pos_right _ (Channel.alive_settle halive hdead)

lemma finishAlone (h : Orderly settings submitted t) (henabled : settings.learning.enabled = true) {i : ℕ}
    {env : Surroundings} (hfinish : t.finishAlone? settings A i env = some t') :
    Orderly settings submitted t' := by
  simp only [finishAlone?, Option.bind_eq_bind, Option.bind_eq_some_iff, Option.pure_def, Option.some.injEq]
    at hfinish
  obtain ⟨job, hjob, rfl⟩ := hfinish
  obtain ⟨hlength, -⟩ := List.getElem?_eq_some_iff.mp hjob
  obtain ⟨s, ending, delayMs, hrun⟩ : ∃ s ending delayMs,
      runJob settings A env job { t.service with detached := t.service.detached.eraseIdx i } =
        (s, ending, delayMs) := ⟨_, _, _, rfl⟩
  have hcounted := counted_runJob henabled hrun
  have hleft : ({ t.service with detached := t.service.detached.eraseIdx i } : Service σ).counted + 1 =
      t.service.counted := by
    simp only [counted, List.length_eraseIdx_of_lt hlength]
    omega
  rw [hrun]
  dsimp only
  exact h.service (Nat.le_add_right _ _) (by omega)

lemma start (h : Orderly settings submitted t) : Orderly settings submitted (t.start settings) := by
  cases hcurrent : t.current with
  | some g => simpa only [Traffic.start, hcurrent] using h
  | none =>
    cases hstart : t.seen.start settings with
    | error e => simpa only [Traffic.start, hcurrent, hstart] using h
    | ok s =>
      obtain ⟨-, hstarted⟩ := start_of_none hcurrent hstart
      have hcounted : s.counted = t.service.counted := by
        unfold Service.start at hstart
        split at hstart
        · cases hstart
          rfl
        · split at hstart <;> cases hstart
          rfl
      rw [hstarted]
      refine ⟨?_, ?_, fun f hf => ?_, ?_⟩
      · have hbefore := h.balance
        simp [Channel.weight, hcounted] at hbefore ⊢
        omega
      · rw [List.forall_mem_append, List.forall_mem_singleton]
        exact ⟨h.channels, Channel.orderly_new _⟩
      · cases hf
        exact ⟨_, List.getElem?_concat_length, rfl⟩
      · rw [List.forall_mem_append, List.forall_mem_singleton]
        exact ⟨h.panicked, by simp⟩

lemma shutdown (h : Orderly settings submitted t) : Orderly settings submitted t.shutdown := by
  cases hcurrent : t.current with
  | none =>
    simp only [Traffic.shutdown, hcurrent]
    rw [← hcurrent]
    exact h.service le_rfl rfl
  | some g =>
    obtain ⟨c, hc, -⟩ := h.current g hcurrent
    obtain ⟨horderly, hdead⟩ := h.channel hc
    rw [shutdown_of_current hcurrent hc]
    exact h.put hc (s := { t.service with reporter := none }) horderly.close (by simp) le_rfl hdead rfl

lemma drained (h : Orderly settings submitted t) (hdrained : t.drained? g = some t') :
    Orderly settings submitted t' := by
  simp only [drained?, Option.bind_eq_bind, Option.bind_eq_some_iff] at hdrained
  obtain ⟨c, hc, hdrained⟩ := hdrained
  obtain ⟨horderly, hdead⟩ := h.channel hc
  split at hdrained
  · rename_i hover
    rw [Bool.and_eq_true] at hover
    cases hdrained
    exact h.put hc (horderly.returns hover.1 hover.2) (fun f hf => ⟨hf, rfl⟩) le_rfl hdead rfl
  · cases hdrained

lemma act (h : Orderly settings submitted t) (henabled : settings.learning.enabled = true) {a : Action σ}
    (hact : t.act? settings A a = some t') : Orderly settings (submitted + a.job?.toList.length) t' := by
  cases a with
  | call request canDetach =>
    simp only [act?] at hact
    cases hjob : request.job? with
    | none =>
      rw [hjob, Option.some.injEq] at hact
      simpa [Action.job?, hjob, ← hact] using h
    | some job =>
      rw [hjob, Option.some.injEq] at hact
      simpa [Action.job?, hjob, ← hact] using h.call canDetach job
  | send g i canDetach => exact h.send hact
  | take g => exact h.take hact
  | finish g env => exact h.finish henabled hact
  | finishAlone i env => exact h.finishAlone henabled hact
  | start => exact Option.some.inj hact ▸ h.start
  | shutdown => exact Option.some.inj hact ▸ h.shutdown
  | drained g => exact h.drained hact
  | meanwhile pipeline profiles => exact Option.some.inj hact ▸ h.service le_rfl rfl

lemma run (h : Orderly settings submitted t) (henabled : settings.learning.enabled = true)
    {actions : List (Action σ)} (hrun : t.run? settings A actions = some t') :
    Orderly settings (submitted + (actions.filterMap Action.job?).length) t' := by
  induction actions generalizing t submitted with
  | nil =>
    cases hrun
    exact h
  | cons a actions ih =>
    rw [run?, List.foldlM_cons, Option.bind_eq_bind, Option.bind_eq_some_iff] at hrun
    obtain ⟨next, hact, hrest⟩ := hrun
    have hlength : ((a :: actions).filterMap Action.job?).length =
        a.job?.toList.length + (actions.filterMap Action.job?).length := by
      rw [List.filterMap_cons]
      cases a.job? <;> simp [Nat.add_comm]
    rw [hlength, ← Nat.add_assoc]
    exact ih (h.act henabled hact) hrest

/-- A queue whose jobs are in order, and whose worker has not panicked, has handled what it took but for
what it still holds. -/
lemma accepted_eq (h : Orderly settings submitted t) (hc : t.channels[g]? = some c)
    (hpanicked : t.panicked = 0) :
    c.worker.alive = true ∧ c.lost = [] ∧ c.accepted = c.handled ++ c.busy.toList ++ c.worker.queue := by
  obtain ⟨horderly, hdead⟩ := h.channel hc
  have halive : c.worker.alive = true := by
    by_contra hnot
    have := hdead (by simpa using hnot)
    omega
  have hlost := horderly.alive halive
  refine ⟨halive, hlost, ?_⟩
  rw [horderly.order, hlost, List.append_nil]

end Orderly

/-- The worker of a queue can come to its end alone, and unless it panics has handled these jobs then. -/
def Drains (settings : Settings) (A : Analyzers σ) (g : ℕ) (env : Surroundings) (jobs : List LearningJob)
    (t : Traffic σ) : Prop :=
  ∃ (work : List (Action σ)) (last : Traffic σ) (c : Channel),
    (∀ a ∈ work, a = .take g ∨ a = .finish g env) ∧ t.run? settings A work = some last ∧
      last.channels[g]? = some c ∧ c.worker.queue = [] ∧ c.busy = none ∧
      (last.panicked = 0 → c.handled = jobs)

section Drains

variable {settings : Settings} {A : Analyzers σ} {submitted : ℕ} {t next : Traffic σ} {g : ℕ} {c : Channel}
  {env : Surroundings}

lemma Drains.step {jobs : List LearningJob} (h : Drains settings A g env jobs next) {a : Action σ}
    (ha : a = .take g ∨ a = .finish g env) (hact : t.act? settings A a = some next) :
    Drains settings A g env jobs t := by
  obtain ⟨work, last, c, hwork, hrun, hc⟩ := h
  exact ⟨a :: work, last, c, List.forall_mem_cons.mpr ⟨ha, hwork⟩, (run?_cons hact).trans hrun, hc⟩

/-- Each step of the worker leaves less to do: a job that waits is taken and then finished. -/
lemma Orderly.drains (h : Orderly settings submitted t) (henabled : settings.learning.enabled = true)
    (hc : t.channels[g]? = some c) (env : Surroundings) : Drains settings A g env c.accepted t := by
  obtain ⟨left, hleft⟩ : ∃ left, 2 * c.worker.queue.length + c.busy.toList.length = left := ⟨_, rfl⟩
  induction left using Nat.strong_induction_on generalizing submitted t c with
  | _ left ih =>
    have horderly := (h.channel hc).1
    cases hbusy : c.busy with
    | some job =>
      obtain ⟨s, ending, delayMs, hrun⟩ : ∃ s ending delayMs,
          t.service.runJob settings A env job = (s, ending, delayMs) := ⟨_, _, _, rfl⟩
      have hact : t.act? settings A (.finish g env) = _ := finish?_eq hc hbusy hrun
      have haccepted : (c.settle job ending).accepted = c.accepted := by
        cases ending <;> rfl
      have hless : 2 * (c.settle job ending).worker.queue.length + (c.settle job ending).busy.toList.length <
          left := by
        rw [← hleft, hbusy]
        cases ending <;> simp [Channel.settle]
      have hnext := ih _ hless (h.act henabled hact) (getElem?_put hc (c.settle job ending) s) rfl
      rw [haccepted] at hnext
      exact hnext.step (.inr rfl) hact
    | none =>
      cases hqueue : c.worker.queue with
      | nil =>
        refine ⟨[], t, c, by simp, rfl, hc, hqueue, hbusy, fun hpanicked => ?_⟩
        obtain ⟨-, -, haccepted⟩ := h.accepted_eq hc hpanicked
        simp [haccepted, hqueue, hbusy]
      | cons job queue =>
        have halive : c.worker.alive = true := by
          by_contra hdead
          rw [(horderly.dead (by simpa using hdead)).2] at hqueue
          cases hqueue
        have hworker : c.worker = ⟨job :: queue, true⟩ := by
          rw [← hqueue, ← halive]
        have hact : t.act? settings A (.take g) = _ := take?_eq hc hbusy hworker
        have hless : 2 * queue.length + 1 < left := by
          rw [← hleft, hqueue, hbusy]
          simp
          omega
        exact (ih _ hless (h.act henabled hact) (getElem?_put hc _ _) rfl).step (.inl rfl) hact

end Drains

def pending (t : Traffic σ) : ℕ :=
  t.service.detached.length +
    (t.channels.map fun c => c.senders.length + c.worker.queue.length + c.busy.toList.length).sum

/-- However calls, starts, shutdowns and the work of the workers and of the jobs on their own mix, and
whatever the stores do meanwhile: as long as no job panics, every job that has been submitted is counted
once or pending. A queue holds no more jobs than it may, and its worker handles exactly those that it took,
in this order; it can always come to their end, and a shutdown that returns leaves none behind. Feedback
that is refused changes nothing. -/
theorem jobs_conserved (settings : Settings) (A : Analyzers σ) (analyzers : σ) (profiles : ProfileStore)
    (henabled : settings.learning.enabled = true) (actions : List (Action σ)) (t : Traffic σ)
    (hrun : (Traffic.initial analyzers profiles).run? settings A actions = some t)
    (hpanicked : t.panicked = 0) :
    let stats := t.service.learning.stats
    (actions.filterMap Action.job?).length =
      stats.profileUpdates + stats.feedbackProcessed + stats.failedJobs + stats.droppedJobs + t.pending ∧
    (∀ g c, t.channels[g]? = some c →
      c.worker.queue.length ≤ max settings.learning.queueCapacity 1 ∧
      c.accepted = c.handled ++ c.busy.toList ++ c.worker.queue ∧
      (∀ env, Drains settings A g env c.accepted t) ∧
      (c.returned = true → c.senders = [] ∧ c.worker.queue = [] ∧ c.busy = none ∧ c.handled = c.accepted)) ∧
    (∀ a map e canDetach, Feedback.ofMap map = .error e →
      t.act? settings A (.call (.feedback a map) canDetach) = some t ∧
        ∀ s : Service σ, s.submitFeedback settings canDetach a map = s) := by
  intro stats
  have h := (Orderly.initial analyzers profiles).run henabled hrun
  refine ⟨?_, fun g c hc => ?_, fun a map e canDetach he => ?_⟩
  · have hbalance := h.balance
    have hweight : t.channels.map Channel.weight =
        t.channels.map fun c => c.senders.length + c.worker.queue.length + c.busy.toList.length := by
      refine List.map_congr_left fun c hmem => ?_
      obtain ⟨g, hc⟩ := List.getElem?_of_mem hmem
      obtain ⟨-, hlost, -⟩ := h.accepted_eq hc hpanicked
      simp [Channel.weight, hlost]
    rw [hweight, hpanicked] at hbalance
    simp only [counted, LearningStats.settled] at hbalance
    simp only [pending, stats]
    omega
  · obtain ⟨horderly, -⟩ := h.channel hc
    obtain ⟨halive, -, haccepted⟩ := h.accepted_eq hc hpanicked
    refine ⟨horderly.bounded, haccepted, h.drains henabled hc, fun hreturned => ?_⟩
    obtain hdead | ⟨-, hsenders, hqueue, hbusy⟩ := Channel.isOver_iff.mp (horderly.returned hreturned).2
    · rw [halive] at hdead
      cases hdead
    · refine ⟨hsenders, hqueue, hbusy, ?_⟩
      simp [haccepted, hqueue, hbusy]
  · simp [act?, Request.job?, submitFeedback, he]

def failedLogin (seconds : ℤ) : Request :=
  .outcome { Learning.bareAttempt with timestamp := ⟨seconds, 0⟩ } false

/-- A full queue, a caller who sends after the shutdown has begun, and one who finds no queue. -/
def busyActions : List (Action AnalyzerState) :=
  let env : Surroundings := ⟨⟨60, 0⟩, 0, 0.0, []⟩
  [.start, .call (failedLogin 1) true, .send 0 0 true, .call (failedLogin 2) true, .send 0 0 true, .take 0,
    .call (failedLogin 3) true, .shutdown, .send 0 0 true, .finish 0 env, .start, .start, .take 0,
    .finish 0 env, .drained 0, .shutdown, .call (failedLogin 4) true]

theorem jobs_conserved_under_load :
    ∃ t, (Traffic.initial (.initial {}) .memory).run? { learning := { queueCapacity := 0 } }
        (Analyzers.standard {} 0.0) busyActions = some t ∧
      t.service.learning.stats.droppedJobs = 1 ∧ t.service.learning.stats.profileUpdates = 2 ∧ t.pending = 1 ∧
      ∀ c, t.channels[0]? = some c → c.returned = true → c.handled = c.accepted := by
  have hfinal : ((Traffic.initial (.initial {}) .memory).run? { learning := { queueCapacity := 0 } }
      (Analyzers.standard {} 0.0) busyActions).any (fun t => t.panicked == 0 &&
        t.service.learning.stats == { profileUpdates := 2, droppedJobs := 1 }) = true := by
    decide +kernel
  cases hrun : (Traffic.initial (.initial {}) .memory).run? { learning := { queueCapacity := 0 } }
      (Analyzers.standard {} 0.0) busyActions with
  | none =>
    rw [hrun] at hfinal
    cases hfinal
  | some t =>
    rw [hrun, Option.any_some, Bool.and_eq_true, beq_iff_eq, beq_iff_eq] at hfinal
    obtain ⟨hpanicked, hstats⟩ := hfinal
    obtain ⟨hbalance, hqueues, -⟩ := jobs_conserved { learning := { queueCapacity := 0 } }
      (Analyzers.standard {} 0.0) (.initial {}) .memory rfl busyActions t hrun hpanicked
    rw [hstats] at hbalance
    have hsubmitted : (busyActions.filterMap Action.job?).length = 4 := rfl
    refine ⟨t, rfl, congrArg (·.droppedJobs) hstats, congrArg (·.profileUpdates) hstats, ?_,
      fun c hc hreturned => ?_⟩
    · simp only at hbalance
      omega
    · obtain ⟨-, -, -, hempty⟩ := hqueues 0 c hc
      exact (hempty hreturned).2.2.2

end Traffic

end LoginRisk.Service
