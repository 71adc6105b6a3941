import LoginRisk.Proofs.Learning.Handle
import Mathlib.Data.Fintype.Basic
import Mathlib.Data.List.FinRange
import Mathlib.Logic.Function.Basic

/-!
Learning jobs that run side by side. Each makes its vector on its own and then takes the one lock under
which it loads, changes and saves its profile. Whatever the order of the steps, what is left is what the
jobs leave one after another, in the order in which they took the lock.
-/

namespace LoginRisk.Learning

/-- How far a job has come. From `locked` to `saved` it holds the lock. -/
inductive Phase where
  | waiting
  | ready (vector : Option (List Float32))
  | locked (vector : Option (List Float32))
  | loaded (vector : Option (List Float32)) (profile : Profile)
  | changed (profile : Profile)
  | saved
  | ended (ending : Except JobError Unit)

namespace Phase

def holdsLock : Phase → Bool
  | .locked _ | .loaded .. | .changed _ | .saved => true
  | _ => false

def isEnded : Phase → Bool
  | .ended _ => true
  | _ => false

lemma eq_ended {phase : Phase} (h : phase.isEnded = true) : ∃ ending, phase = .ended ending := by
  cases phase with
  | ended ending => exact ⟨ending, rfl⟩
  | _ => cases h

end Phase

structure Crowd (σ : Type) (n : ℕ) where
  memory : σ
  state : LearningState
  lock : Option (Fin n)
  phase : Fin n → Phase
  /-- The jobs in the order in which they took the lock. -/
  taken : List (Fin n)

namespace Crowd

variable {σ : Type} {n : ℕ}

def initial (memory : σ) (state : LearningState) : Crowd σ n :=
  ⟨memory, state, none, fun _ => .waiting, []⟩

def enter (c : Crowd σ n) (i : Fin n) (phase : Phase) : Crowd σ n :=
  { c with phase := Function.update c.phase i phase }

/-- A job ends and gives the lock back; a store that fails is counted. -/
def leave (c : Crowd σ n) (i : Fin n) (ending : Except JobError Unit) : Crowd σ n :=
  let (state, ending) := finished (c.state, ending)
  { c with lock := none, state }.enter i (.ended ending)

variable (s : LearningSettings) (embed : Embedder σ) (now : Instant) (jobs : Fin n → LearningJob)

def start (i : Fin n) (c : Crowd σ n) : Crowd σ n :=
  if !s.enabled then c.enter i (.ended (.ok ()))
  else if (jobs i).needsVector s then
    let (memory, task) := embed (jobs i).attempt c.memory
    match vectorOf task.ending with
    | .error e => { c with memory }.enter i (.ended (.error e))
    | .ok vector => { c with memory }.enter i (.ready vector)
  else c.enter i (.ready none)

/-- The next step of a job, up to where it waits again; none while another job has the lock that it
wants, and none after its end. -/
def step? (i : Fin n) (c : Crowd σ n) : Option (Crowd σ n) :=
  match c.phase i with
  | .waiting => some (c.start s embed jobs i)
  | .ready vector =>
    match c.lock with
    | some _ => none
    | none => some ({ c with lock := some i, taken := c.taken ++ [i] }.enter i (.locked vector))
  | .locked vector =>
    match c.state.profiles.load (jobs i).key with
    | .error e => some (c.leave i (.error (.store e)))
    | .ok known => some (c.enter i (.loaded vector (known.getD (.new (jobs i).key now))))
  | .loaded vector p =>
    let (stats, changed) := change s now (jobs i) vector c.state.stats p
    let c := { c with state := { c.state with stats } }
    match changed with
    | .error e => some (c.leave i (.error e))
    | .ok p => some (c.enter i (.changed p))
  | .changed p =>
    match c.state.profiles.save p with
    | .error e => some (c.leave i (.error (.store e)))
    | .ok profiles => some ({ c with state := { c.state with profiles } }.enter i .saved)
  | .saved =>
    some ({ c with state := { c.state with stats := c.state.stats.finish (jobs i) } }.leave i (.ok ()))
  | .ended _ => none

def run? (schedule : List (Fin n)) (c : Crowd σ n) : Option (Crowd σ n) :=
  schedule.foldlM (fun c i => c.step? s embed now jobs i) c

end Crowd

def saveChanged (job : LearningJob) (p : Profile) (state : LearningState) :
    LearningState × Except JobError Unit :=
  match state.profiles.save p with
  | .error e => (state, .error (.store e))
  | .ok profiles => (⟨profiles, state.stats.finish job⟩, .ok ())

def changeLoaded (s : LearningSettings) (now : Instant) (job : LearningJob)
    (vector : Option (List Float32)) (p : Profile) (state : LearningState) :
    LearningState × Except JobError Unit :=
  let (stats, changed) := change s now job vector state.stats p
  match changed with
  | .error e => ({ state with stats }, .error e)
  | .ok p => saveChanged job p { state with stats }

/-- What is left when a job with the lock does the rest of its work at once. -/
def rest (s : LearningSettings) (now : Instant) (job : LearningJob) :
    Phase → LearningState → LearningState
  | .locked vector, state => (finished (apply s now job vector state)).1
  | .loaded vector p, state => (finished (changeLoaded s now job vector p state)).1
  | .changed p, state => (finished (saveChanged job p state)).1
  | .saved, state => { state with stats := state.stats.finish job }
  | _, state => state

/-- What some jobs leave that run one after another, each with what the embedder remembers for it. -/
def inTurn {σ : Type} {n : ℕ} (s : LearningSettings) (embed : Embedder σ) (now : Instant)
    (jobs : Fin n → LearningJob) (memories : Fin n → σ) (order : List (Fin n)) (state : LearningState) :
    LearningState :=
  order.foldl (fun state i => (handle s embed now (jobs i) (memories i) state).state) state

section InTurn

variable {σ : Type} {n : ℕ} {s : LearningSettings} {embed : Embedder σ} {now : Instant}
  {jobs : Fin n → LearningJob} {memories : Fin n → σ}

lemma inTurn_append (first last : List (Fin n)) (state : LearningState) :
    inTurn s embed now jobs memories (first ++ last) state =
      inTurn s embed now jobs memories last (inTurn s embed now jobs memories first state) :=
  List.foldl_append ..

lemma inTurn_of_idle {order : List (Fin n)} (state : LearningState)
    (h : ∀ i ∈ order, ∀ state, (handle s embed now (jobs i) (memories i) state).state = state) :
    inTurn s embed now jobs memories order state = state := by
  induction order with
  | nil => rfl
  | cons i order ih =>
    rw [inTurn, List.foldl_cons, h i List.mem_cons_self]
    exact ih fun j hj => h j (List.mem_cons_of_mem _ hj)

end InTurn

namespace Crowd

variable {σ : Type} {n : ℕ} {s : LearningSettings} {embed : Embedder σ} {now : Instant}
  {jobs : Fin n → LearningJob} {memories : Fin n → σ} {before : LearningState} {c : Crowd σ n} {i : Fin n}

/-- The state as it will be when the job with the lock is done. -/
def completed (s : LearningSettings) (now : Instant) (jobs : Fin n → LearningJob) (c : Crowd σ n) :
    LearningState :=
  match c.lock with
  | none => c.state
  | some i => rest s now (jobs i) (c.phase i) c.state

/-- Where a job stands: it had the lock if it holds it, did not have it while it waits, and leaves nothing
behind if it ended without it. -/
def Stands (s : LearningSettings) (embed : Embedder σ) (now : Instant) (job : LearningJob) (memory : σ)
    (hadLock : Prop) : Phase → Prop
  | .waiting => ¬hadLock
  | .ready vector => ¬hadLock ∧ s.enabled = true ∧ vectorFor s embed job memory = .ok vector
  | .ended _ => ¬hadLock → ∀ state, (handle s embed now job memory state).state = state
  | _ => hadLock

lemma stands_of_holdsLock {phase : Phase} (h : phase.holdsLock = true) (job : LearningJob) (memory : σ)
    (hadLock : Prop) : Stands s embed now job memory hadLock phase ↔ hadLock := by
  cases phase <;> first | exact Iff.rfl | cases h

lemma start_eq (s : LearningSettings) (embed : Embedder σ) (now : Instant) (jobs : Fin n → LearningJob)
    (c : Crowd σ n) (i : Fin n) :
    ∃ memory phase, c.start s embed jobs i = { c with memory }.enter i phase ∧
      phase.holdsLock = false ∧
      ∀ hadLock, ¬hadLock → Stands s embed now (jobs i) c.memory hadLock phase := by
  unfold start
  by_cases henabled : s.enabled = true
  · rw [if_neg (by simp [henabled])]
    by_cases hneeds : (jobs i).needsVector s = true
    · have hvectorFor : vectorFor s embed (jobs i) c.memory =
          vectorOf (embed (jobs i).attempt c.memory).2.ending := by
        rw [vectorFor, if_pos hneeds]
      rw [if_pos hneeds]
      dsimp only
      cases hvector : vectorOf (embed (jobs i).attempt c.memory).2.ending with
      | error e =>
        exact ⟨_, _, rfl, rfl, fun _ _ _ _ =>
          congrArg Prod.fst (handle_of_error henabled (hvectorFor.trans hvector))⟩
      | ok vector =>
        exact ⟨_, _, rfl, rfl, fun _ hnot => ⟨hnot, henabled, hvectorFor.trans hvector⟩⟩
    · have hvectorFor : vectorFor s embed (jobs i) c.memory = .ok none := by
        rw [vectorFor, if_neg hneeds]
      rw [if_neg hneeds]
      exact ⟨_, _, rfl, rfl, fun _ hnot => ⟨hnot, henabled, hvectorFor⟩⟩
  · rw [Bool.not_eq_true] at henabled
    rw [if_pos (by simp [henabled])]
    exact ⟨_, _, rfl, rfl, fun _ _ _ _ => congrArg Prod.fst (handle_of_disabled henabled)⟩

/-- The jobs that took the lock add up to running them in this order. -/
structure Orderly (s : LearningSettings) (embed : Embedder σ) (now : Instant) (jobs : Fin n → LearningJob)
    (before : LearningState) (memories : Fin n → σ) (c : Crowd σ n) : Prop where
  nodup : c.taken.Nodup
  lock : ∀ i, c.lock = some i ↔ (c.phase i).holdsLock = true
  stands : ∀ i, Stands s embed now (jobs i) (memories i) (i ∈ c.taken) (c.phase i)
  state : c.completed s now jobs = inTurn s embed now jobs memories c.taken before

namespace Orderly

lemma initial (memory : σ) : Orderly s embed now jobs before memories (.initial memory before) where
  nodup := List.nodup_nil
  lock _ := by simp [Crowd.initial, Phase.holdsLock]
  stands _ := List.not_mem_nil
  state := rfl

lemma mem_taken (h : Orderly s embed now jobs before memories c)
    (hphase : (c.phase i).holdsLock = true) : i ∈ c.taken :=
  (stands_of_holdsLock hphase _ _ _).mp (h.stands i)

lemma holdsLock_of_ne (h : Orderly s embed now jobs before memories c)
    (hphase : (c.phase i).holdsLock = true) {j : Fin n} (hne : j ≠ i) : (c.phase j).holdsLock = false := by
  rw [← Bool.not_eq_true, ← h.lock j, (h.lock i).mpr hphase, Option.some.injEq]
  exact hne.symm

lemma completed_eq (h : Orderly s embed now jobs before memories c)
    (hphase : (c.phase i).holdsLock = true) :
    c.completed s now jobs = rest s now (jobs i) (c.phase i) c.state := by
  rw [completed, (h.lock i).mpr hphase]

lemma work (h : Orderly s embed now jobs before memories c) (hphase : (c.phase i).holdsLock = true)
    {phase : Phase} (hnext : phase.holdsLock = true) {state : LearningState}
    (hrest : rest s now (jobs i) phase state = rest s now (jobs i) (c.phase i) c.state) :
    Orderly s embed now jobs before memories ({ c with state }.enter i phase) where
  nodup := h.nodup
  lock := (Function.forall_update_iff c.phase fun j phase => c.lock = some j ↔ phase.holdsLock = true).mpr
    ⟨by simp [(h.lock i).mpr hphase, hnext], fun j _ => h.lock j⟩
  stands := (Function.forall_update_iff c.phase fun j phase =>
      Stands s embed now (jobs j) (memories j) (j ∈ c.taken) phase).mpr
    ⟨(stands_of_holdsLock hnext _ _ _).mpr (h.mem_taken hphase), fun j _ => h.stands j⟩
  state := by
    have hcompleted : Crowd.completed s now jobs ({ c with state }.enter i phase) =
        rest s now (jobs i) phase state := by
      simp [completed, enter, (h.lock i).mpr hphase]
    rw [hcompleted, hrest, ← h.completed_eq hphase]
    exact h.state

lemma leave (h : Orderly s embed now jobs before memories c) (hphase : (c.phase i).holdsLock = true)
    {ending : Except JobError Unit} {state : LearningState}
    (hrest : (finished (state, ending)).1 = rest s now (jobs i) (c.phase i) c.state) :
    Orderly s embed now jobs before memories ({ c with state }.leave i ending) := by
  refine ⟨h.nodup, ?_, ?_, ?_⟩
  · refine (Function.forall_update_iff c.phase fun j phase =>
      none = some j ↔ phase.holdsLock = true).mpr ⟨by simp [Phase.holdsLock], fun j hne => ?_⟩
    simp [h.holdsLock_of_ne hphase hne]
  · exact (Function.forall_update_iff c.phase fun j phase =>
      Stands s embed now (jobs j) (memories j) (j ∈ c.taken) phase).mpr
      ⟨fun hnot => absurd (h.mem_taken hphase) hnot, fun j _ => h.stands j⟩
  · exact hrest.trans ((h.completed_eq hphase).symm.trans h.state)

lemma take (h : Orderly s embed now jobs before memories c) {vector : Option (List Float32)}
    (hphase : c.phase i = .ready vector) (hlock : c.lock = none) :
    Orderly s embed now jobs before memories
      ({ c with lock := some i, taken := c.taken ++ [i] }.enter i (.locked vector)) := by
  have hstands := h.stands i
  rw [hphase] at hstands
  obtain ⟨hnew, henabled, hvector⟩ := hstands
  refine ⟨?_, ?_, ?_, ?_⟩
  · exact List.nodup_append.mpr ⟨h.nodup, List.nodup_singleton i, by
      rintro j hj k hk rfl
      exact hnew (List.mem_singleton.mp hk ▸ hj)⟩
  · refine (Function.forall_update_iff c.phase fun j phase =>
      some i = some j ↔ phase.holdsLock = true).mpr ⟨by simp [Phase.holdsLock], fun j hne => ?_⟩
    rw [← h.lock j, hlock]
    simp [hne.symm]
  · refine (Function.forall_update_iff c.phase fun j phase =>
      Stands s embed now (jobs j) (memories j) (j ∈ c.taken ++ [i]) phase).mpr
      ⟨by simp [Stands], fun j hne => ?_⟩
    have hmem : (j ∈ c.taken ++ [i]) = (j ∈ c.taken) := by simp [hne]
    rw [hmem]
    exact h.stands j
  · have hbefore : c.state = inTurn s embed now jobs memories c.taken before := by
      rw [← h.state, completed, hlock]
    have hafter : inTurn s embed now jobs memories (c.taken ++ [i]) before =
        (finished (apply s now (jobs i) vector c.state)).1 := by
      rw [inTurn_append, ← hbefore]
      exact congrArg Prod.fst (handle_of_vector henabled hvector)
    rw [completed]
    simp only [enter, Function.update_self, rest]
    exact hafter.symm

lemma start (h : Orderly s embed now jobs before memories c) (hphase : c.phase i = .waiting) :
    Orderly s embed now jobs before (Function.update memories i c.memory) (c.start s embed jobs i) := by
  have hnew : i ∉ c.taken := by
    have hstands := h.stands i
    rwa [hphase] at hstands
  obtain ⟨memory, phase, heq, hfree, hstands⟩ := start_eq s embed now jobs c i
  rw [heq]
  refine ⟨h.nodup, ?_, ?_, ?_⟩
  · refine (Function.forall_update_iff c.phase fun j phase =>
      c.lock = some j ↔ phase.holdsLock = true).mpr ⟨?_, fun j _ => h.lock j⟩
    rw [h.lock i, hphase, hfree]
    rfl
  · refine (Function.forall_update_iff c.phase fun j phase => Stands s embed now (jobs j)
      (Function.update memories i c.memory j) (j ∈ c.taken) phase).mpr ⟨?_, fun j hne => ?_⟩
    · rw [Function.update_self]
      exact hstands _ hnew
    · rw [Function.update_of_ne hne]
      exact h.stands j
  · have hcompleted : Crowd.completed s now jobs ({ c with memory }.enter i phase) =
        c.completed s now jobs := by
      unfold completed
      cases hlock : c.lock with
      | none => simp [enter]
      | some j =>
        have hne : j ≠ i := by
          rintro rfl
          have := (h.lock j).mp hlock
          rw [hphase] at this
          cases this
        simp [enter, Function.update_of_ne hne]
    rw [hcompleted, h.state]
    refine List.foldl_ext _ _ _ fun state j hj => ?_
    have hne : j ≠ i := by
      rintro rfl
      exact hnew hj
    rw [Function.update_of_ne hne]

/-- Every step keeps to the order. -/
lemma step {c' : Crowd σ n} (h : Orderly s embed now jobs before memories c)
    (hstep : c.step? s embed now jobs i = some c') :
    ∃ memories', Orderly s embed now jobs before memories' c' := by
  unfold step? at hstep
  cases hphase : c.phase i with
  | waiting =>
    simp only [hphase, Option.some.injEq] at hstep
    exact ⟨_, hstep ▸ h.start hphase⟩
  | ready vector =>
    simp only [hphase] at hstep
    split at hstep
    · cases hstep
    · rename_i hlock
      exact ⟨_, Option.some.inj hstep ▸ h.take hphase hlock⟩
  | locked vector =>
    have hholds : (c.phase i).holdsLock = true := by rw [hphase]; rfl
    simp only [hphase] at hstep
    split at hstep
    · rename_i e hload
      refine ⟨_, Option.some.inj hstep ▸ h.leave hholds ?_⟩
      rw [hphase, rest, apply, hload]
    · rename_i known hload
      refine ⟨_, Option.some.inj hstep ▸ h.work hholds rfl ?_⟩
      rw [hphase, rest, rest, apply, hload]
      rfl
  | loaded vector p =>
    have hholds : (c.phase i).holdsLock = true := by rw [hphase]; rfl
    simp only [hphase] at hstep
    split at hstep
    · rename_i e hchange
      refine ⟨_, Option.some.inj hstep ▸ h.leave hholds ?_⟩
      simp only [hphase, rest, changeLoaded, hchange]
    · rename_i changed hchange
      refine ⟨_, Option.some.inj hstep ▸ h.work hholds rfl ?_⟩
      simp only [hphase, rest, changeLoaded, hchange]
  | changed p =>
    have hholds : (c.phase i).holdsLock = true := by rw [hphase]; rfl
    simp only [hphase] at hstep
    split at hstep
    · rename_i e hsave
      refine ⟨_, Option.some.inj hstep ▸ h.leave hholds ?_⟩
      simp only [hphase, rest, saveChanged, hsave]
    · rename_i profiles hsave
      refine ⟨_, Option.some.inj hstep ▸ h.work hholds rfl ?_⟩
      simp only [hphase, rest, saveChanged, hsave]
      rfl
  | saved =>
    have hholds : (c.phase i).holdsLock = true := by rw [hphase]; rfl
    simp only [hphase] at hstep
    refine ⟨_, Option.some.inj hstep ▸ h.leave hholds ?_⟩
    rw [hphase]
    rfl
  | ended ending =>
    simp only [hphase] at hstep
    cases hstep

lemma run {c' : Crowd σ n} {schedule : List (Fin n)} (h : Orderly s embed now jobs before memories c)
    (hrun : c.run? s embed now jobs schedule = some c') :
    ∃ memories', Orderly s embed now jobs before memories' c' := by
  induction schedule generalizing c memories with
  | nil =>
    cases hrun
    exact ⟨memories, h⟩
  | cons i schedule ih =>
    rw [run?, List.foldlM_cons, Option.bind_eq_bind, Option.bind_eq_some_iff] at hrun
    obtain ⟨next, hstep, hrest⟩ := hrun
    obtain ⟨memories', hnext⟩ := h.step hstep
    exact ih hnext hrest

/-- No job waits for a lock that nobody will give back. -/
lemma progress (h : Orderly s embed now jobs before memories c) :
    (∀ i, (c.phase i).isEnded = true) ∨ ∃ i, (c.step? s embed now jobs i).isSome = true := by
  by_cases hended : ∀ i, (c.phase i).isEnded = true
  · exact .inl hended
  · obtain ⟨i, hi⟩ := not_forall.mp hended
    right
    cases hlock : c.lock with
    | some j =>
      refine ⟨j, ?_⟩
      have hholds := (h.lock j).mp hlock
      unfold step?
      cases hphase : c.phase j <;> rw [hphase] at hholds <;> cases hholds <;> dsimp only <;>
        first | rfl | (split <;> rfl)
    | none =>
      refine ⟨i, ?_⟩
      have hfree : ¬(c.phase i).holdsLock = true := by
        rw [← h.lock i, hlock]
        simp
      unfold step?
      cases hphase : c.phase i <;> rw [hphase] at hfree hi <;>
        first | exact absurd rfl hfree | exact absurd rfl hi | simp [hlock]

lemma lock_of_ended (h : Orderly s embed now jobs before memories c)
    (hended : ∀ i, (c.phase i).isEnded = true) : c.lock = none := by
  refine Option.eq_none_iff_forall_ne_some.mpr fun i hlock => ?_
  have hholds := (h.lock i).mp hlock
  obtain ⟨ending, hphase⟩ := Phase.eq_ended (hended i)
  rw [hphase] at hholds
  cases hholds

/-- Once all jobs have ended, those that never had the lock may be taken to have run last. -/
lemma exists_order (h : Orderly s embed now jobs before memories c)
    (hended : ∀ i, (c.phase i).isEnded = true) :
    ∃ order : List (Fin n), order.Perm (List.finRange n) ∧ c.taken <+: order ∧
      c.state = inTurn s embed now jobs memories order before := by
  let others := (List.finRange n).filter fun i => i ∉ c.taken
  have hnot : ∀ i ∈ others, i ∉ c.taken := fun i hi => of_decide_eq_true (List.mem_filter.mp hi).2
  have hidle : ∀ i ∈ others, ∀ state, (handle s embed now (jobs i) (memories i) state).state = state := by
    intro i hi
    have hstands := h.stands i
    obtain ⟨ending, hphase⟩ := Phase.eq_ended (hended i)
    rw [hphase] at hstands
    exact hstands (hnot i hi)
  refine ⟨c.taken ++ others, ?_, List.prefix_append _ _, ?_⟩
  · have hnodup : (c.taken ++ others).Nodup := by
      refine List.nodup_append.mpr ⟨h.nodup, (List.nodup_finRange n).filter _, ?_⟩
      rintro i hi j hj rfl
      exact hnot i hj hi
    refine (List.perm_ext_iff_of_nodup hnodup (List.nodup_finRange n)).mpr fun i => ?_
    by_cases hi : i ∈ c.taken <;> simp [others, hi]
  · rw [inTurn_append, inTurn_of_idle _ hidle, ← h.state, completed, h.lock_of_ended hended]

end Orderly

end Crowd

/-- Jobs that run one after another, each with the memory that the embedder has by then. -/
def oneByOne {σ : Type} (s : LearningSettings) (embed : Embedder σ) (now : Instant)
    (jobs : List LearningJob) (memory : σ) (state : LearningState) : σ × LearningState :=
  jobs.foldl
    (fun before job =>
      let run := handle s embed now job before.1 before.2
      (run.memory, run.state))
    (memory, state)

def Steady {σ : Type} (embed : Embedder σ) : Prop :=
  ∀ a memory memory', (embed a memory).2.ending = (embed a memory').2.ending

section Steady

variable {σ : Type} {n : ℕ} {s : LearningSettings} {embed : Embedder σ} {now : Instant}

lemma Steady.handle_result (h : Steady embed) (job : LearningJob) (memory memory' : σ)
    (state : LearningState) :
    (handle s embed now job memory state).result = (handle s embed now job memory' state).result := by
  cases henabled : s.enabled with
  | false => rw [handle_of_disabled henabled, handle_of_disabled henabled]
  | true =>
    have hvector : vectorFor s embed job memory = vectorFor s embed job memory' := by
      rw [vectorFor, vectorFor, h]
    rw [handle_of_enabled henabled, handle_of_enabled henabled, perform_result, perform_result, hvector]

lemma Steady.inTurn_eq (h : Steady embed) (jobs : Fin n → LearningJob) (memories : Fin n → σ)
    (order : List (Fin n)) (memory : σ) (state : LearningState) :
    inTurn s embed now jobs memories order state =
      (oneByOne s embed now (order.map jobs) memory state).2 := by
  induction order generalizing memory state with
  | nil => rfl
  | cons i order ih =>
    have hstate : (handle s embed now (jobs i) (memories i) state).state =
        (handle s embed now (jobs i) memory state).state :=
      congrArg Prod.fst (h.handle_result (jobs i) (memories i) memory state)
    rw [inTurn, List.foldl_cons, ← inTurn, ih (handle s embed now (jobs i) memory state).memory, hstate]
    rfl

end Steady

namespace Crowd

variable {σ : Type} {n : ℕ}

/-- However the steps of some jobs mix, some job can go on until all have ended. What is left then is what
the jobs leave one after another, in the order in which they took the lock, each with the vector that the
embedder made for it. -/
theorem run_serializes (s : LearningSettings) (embed : Embedder σ) (now : Instant)
    (jobs : Fin n → LearningJob) (memory : σ) (state : LearningState) {schedule : List (Fin n)}
    {c : Crowd σ n} (hrun : (initial memory state).run? s embed now jobs schedule = some c) :
    ((∀ i, (c.phase i).isEnded = true) ∨ ∃ i, (c.step? s embed now jobs i).isSome = true) ∧
    ((∀ i, (c.phase i).isEnded = true) →
      ∃ (order : List (Fin n)) (memories : Fin n → σ),
        order.Perm (List.finRange n) ∧ c.taken <+: order ∧
        c.state = inTurn s embed now jobs memories order state ∧
        (Steady embed → c.state = (oneByOne s embed now (order.map jobs) memory state).2)) := by
  obtain ⟨memories, horderly⟩ :=
    (Orderly.initial (s := s) memory : Orderly s embed now jobs state (fun _ => memory) _).run hrun
  refine ⟨horderly.progress, fun hended => ?_⟩
  obtain ⟨order, hperm, htaken, hstate⟩ := horderly.exists_order hended
  exact ⟨order, memories, hperm, htaken, hstate, fun hsteady =>
    hstate.trans (hsteady.inTurn_eq jobs memories order memory state)⟩

def twoLogins (i : Fin 2) : LearningJob :=
  let attempt : Attempt :=
    { email := "a@b.c"
      credentialDigest := ""
      clientAddress := .v4 0
      userAgent := "curl"
      timestamp := ⟨i.val, 0⟩
      requestId := "" }
  .outcome attempt true

/-- The second login makes its vector later but takes the lock first. -/
theorem run_serializes_two_logins :
    ∃ c, (initial () { profiles := .memory }).run? {} constantEmbedder ⟨60, 0⟩ twoLogins
        [0, 1, 1, 1, 1, 1, 1, 0, 0, 0, 0, 0] = some c ∧
      c.state.stats.profileUpdates = 2 ∧
      c.state = (oneByOne {} constantEmbedder ⟨60, 0⟩ [twoLogins 1, twoLogins 0] ()
        { profiles := .memory }).2 := by
  have hfinal : ((initial () { profiles := .memory }).run? {} constantEmbedder ⟨60, 0⟩ twoLogins
      [0, 1, 1, 1, 1, 1, 1, 0, 0, 0, 0, 0]).any (fun c =>
        decide (∀ i, (c.phase i).isEnded = true) && c.taken == [1, 0] &&
          c.state.stats.profileUpdates == 2) = true := by
    decide +kernel
  cases hrun : (initial () { profiles := .memory }).run? {} constantEmbedder ⟨60, 0⟩ twoLogins
      [0, 1, 1, 1, 1, 1, 1, 0, 0, 0, 0, 0] with
  | none =>
    rw [hrun] at hfinal
    cases hfinal
  | some c =>
    rw [hrun, Option.any_some, Bool.and_eq_true, Bool.and_eq_true, decide_eq_true_eq, beq_iff_eq,
      beq_iff_eq] at hfinal
    obtain ⟨⟨hended, htaken⟩, hstats⟩ := hfinal
    obtain ⟨-, hserial⟩ := run_serializes {} constantEmbedder ⟨60, 0⟩ twoLogins () { profiles := .memory } hrun
    obtain ⟨order, -, hperm, hinitial, -, hsteady⟩ := hserial hended
    have horder : order = [1, 0] := by
      rw [htaken] at hinitial
      exact (hinitial.eq_of_length hperm.length_eq.symm).symm
    refine ⟨c, rfl, hstats, ?_⟩
    rw [hsteady fun _ _ _ => rfl, horder]
    rfl

end Crowd

end LoginRisk.Learning
