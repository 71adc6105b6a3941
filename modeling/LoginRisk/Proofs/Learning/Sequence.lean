import LoginRisk.Proofs.Assoc
import LoginRisk.Proofs.Learning.Bias
import Mathlib.Logic.Function.Basic

/-!
Jobs that are handled one after another over a store in memory, seen from one profile. A job touches the
profile under its own key only, and what it makes of that profile depends on nothing else in the store.
-/

namespace LoginRisk

/-- A working store in memory holds these profiles, each under the id of its user. -/
structure ProfileStore.Holds (store : ProfileStore) (content : String → Option Profile) : Prop where
  entries : ∃ entries, store = ⟨.memory entries, {}⟩ ∧ ∀ key, entries.lookup key = content key
  userId : ∀ key p, content key = some p → p.userId = key

namespace ProfileStore.Holds

variable {store : ProfileStore} {content : String → Option Profile}

lemma memory : ProfileStore.memory.Holds fun _ => none :=
  ⟨⟨[], rfl, fun _ => rfl⟩, by simp⟩

lemma load (h : store.Holds content) (key : String) : store.load key = .ok (content key) := by
  obtain ⟨entries, rfl, hlookup⟩ := h.entries
  exact congrArg Except.ok (hlookup key)

lemma save (h : store.Holds content) (p : Profile) :
    ∃ saved, store.save p = .ok saved ∧ saved.Holds (Function.update content p.userId (some p)) := by
  obtain ⟨entries, rfl, hlookup⟩ := h.entries
  refine ⟨_, rfl, ⟨_, rfl, fun key => ?_⟩, fun key q hq => ?_⟩
  · by_cases hkey : key = p.userId
    · subst hkey
      rw [Assoc.lookup_put, Function.update_self]
    · rw [Assoc.lookup_put_of_ne hkey, Function.update_of_ne hkey, hlookup]
  · by_cases hkey : key = p.userId
    · subst hkey
      rw [Function.update_self, Option.some.injEq] at hq
      rw [hq]
    · rw [Function.update_of_ne hkey] at hq
      exact h.userId key q hq

end ProfileStore.Holds

namespace Learning

section Change

variable {s : LearningSettings} {now : Instant} {job : LearningJob} {a : Attempt} {success : Bool}
  {vector : Option (List Float32)} {stats : LearningStats} {p p' : Profile}

lemma applyOutcome_eq_ok (h : applyOutcome s now a success vector p = .ok p') :
    ∃ start, Profile.daysBefore now s.outcomeHistoryDays = .ok start ∧ ∃ outcomes,
      p' = { (if success then learnSuccess s a vector { p with outcomes } else { p with outcomes }) with
        updatedAt := now } := by
  obtain ⟨added, hadded, h⟩ := exists_of_bind_eq_ok h
  rw [addOutcome] at hadded
  cases hstart : Profile.daysBefore now s.outcomeHistoryDays with
  | error e =>
    rw [hstart] at hadded
    cases hadded
  | ok start =>
    rw [hstart] at hadded
    cases hadded
    cases h
    exact ⟨start, rfl, _, rfl⟩

/-- What stands in a profile whatever outcomes are entered. -/
structure Standing where
  userId : String
  bias : Float
  falsePositives : UInt32
  falseNegatives : UInt32
  confirmed : UInt32

def standing (p : Profile) : Standing :=
  ⟨p.userId, p.calibrationBias, p.falsePositives, p.falseNegatives, p.confirmed⟩

lemma standing_learnSuccess (s : LearningSettings) (a : Attempt) (vector : Option (List Float32))
    (p : Profile) : standing (learnSuccess s a vector p) = standing p := by
  obtain ⟨_, _, _, _, _, _, _, hlearned⟩ := exists_learnSuccess a vector s p
  rw [hlearned]
  rfl

lemma standing_applyOutcome (h : applyOutcome s now a success vector p = .ok p') :
    standing p' = standing p := by
  obtain ⟨-, -, outcomes, rfl⟩ := applyOutcome_eq_ok h
  cases success
  · rfl
  · exact standing_learnSuccess s a vector { p with outcomes }

lemma standing_applyFeedback {f : Feedback} (h : applyFeedback s now a f vector p = .ok p') :
    standing p' = standing (judge s p f.kind) := by
  unfold applyFeedback at h
  split at h
  · exact standing_applyOutcome h
  · cases h
    rfl

/-- The statistics are no part of what becomes of a profile. -/
lemma change_snd (s : LearningSettings) (now : Instant) (job : LearningJob)
    (vector : Option (List Float32)) (stats : LearningStats) (p : Profile) :
    (change s now job vector stats p).2 = (change s now job vector {} p).2 := by
  cases job with
  | outcome a success => rfl
  | feedback a f =>
    unfold change
    dsimp only
    split <;> rfl

lemma change_outcome_eq_ok (h : (change s now (.outcome a success) vector stats p).2 = .ok p') :
    applyOutcome s now a success vector p = .ok p' := by
  simp only [change] at h
  cases houtcome : applyOutcome s now a success vector p <;> rw [houtcome] at h <;> cases h
  rfl

lemma change_feedback_eq_ok {f : Feedback}
    (h : (change s now (.feedback a f) vector stats p).2 = .ok p') :
    ∃ moved bias, applyFeedback s now a f vector p = .ok moved ∧
      clampBias s.maxUserBias.abs moved.calibrationBias = some bias ∧
      p' = { moved with calibrationBias := bias, updatedAt := now } := by
  simp only [change] at h
  cases hmoved : applyFeedback s now a f vector p with
  | error e =>
    rw [hmoved] at h
    cases h
  | ok moved =>
    simp only [hmoved, boundBias] at h
    cases hbias : clampBias s.maxUserBias.abs moved.calibrationBias with
    | none =>
      rw [hbias] at h
      cases h
    | some bias =>
      rw [hbias] at h
      cases h
      exact ⟨moved, bias, rfl, hbias, rfl⟩

/-- The outcome that a job enters into a profile. -/
def recorded? (s : LearningSettings) : LearningJob → Option LoginOutcome
  | .outcome a success => some ⟨a.timestamp, success, a.clientAddress.text⟩
  | .feedback a f => if f.extendsBaseline s then some ⟨a.timestamp, true, a.clientAddress.text⟩ else none

lemma timestamp_of_recorded {o : LoginOutcome} (h : recorded? s job = some o) :
    o.timestamp = job.attempt.timestamp := by
  unfold recorded? at h
  split at h
  · cases h
    rfl
  · split at h <;> cases h
    rfl

/-- Of a part of the profile that feedback as such leaves alone, a job makes what entering its outcome does. -/
lemma part_change {α : Type} (part : Profile → α) (hjudge : ∀ kind p, part (judge s p kind) = part p)
    (hbias : ∀ bias p, part { p with calibrationBias := bias, updatedAt := now } = part p)
    (h : (change s now job vector stats p).2 = .ok p') :
    (recorded? s job = none ∧ part p' = part p) ∨ ∃ success q q',
      recorded? s job = some ⟨job.attempt.timestamp, success, job.attempt.clientAddress.text⟩ ∧ part q = part p ∧
      applyOutcome s now job.attempt success vector q = .ok q' ∧ part p' = part q' := by
  cases job with
  | outcome a success => exact .inr ⟨success, p, p', rfl, rfl, change_outcome_eq_ok h, rfl⟩
  | feedback a f =>
    obtain ⟨moved, bias, hmoved, -, rfl⟩ := change_feedback_eq_ok h
    unfold applyFeedback at hmoved
    split at hmoved
    · rename_i hextends
      exact .inr ⟨true, _, moved, if_pos hextends, hjudge f.kind p, hmoved, hbias bias moved⟩
    · rename_i hextends
      cases hmoved
      exact .inl ⟨if_neg hextends, (hbias bias _).trans (hjudge f.kind p)⟩

lemma userId_judge (s : LearningSettings) (p : Profile) (kind : FeedbackKind) :
    (judge s p kind).userId = p.userId := by
  cases kind <;> rfl

lemma userId_change (h : (change s now job vector stats p).2 = .ok p') : p'.userId = p.userId := by
  cases job with
  | outcome a success =>
    exact congrArg Standing.userId (standing_applyOutcome (change_outcome_eq_ok h))
  | feedback a f =>
    obtain ⟨moved, bias, hmoved, -, rfl⟩ := change_feedback_eq_ok h
    exact (congrArg Standing.userId (standing_applyFeedback hmoved)).trans (userId_judge s p f.kind)

/-- Whether a job panics does not depend on the profile. -/
lemma exists_change_of_eq_ok (h : (change s now job vector stats p).2 = .ok p') (q : Profile) :
    ∃ q', (change s now job vector stats q).2 = .ok q' := by
  have houtcome {a : Attempt} {success : Bool} {p p' : Profile}
      (h : applyOutcome s now a success vector p = .ok p') (q : Profile) :
      ∃ q', applyOutcome s now a success vector q = .ok q' := by
    obtain ⟨start, hstart, -⟩ := applyOutcome_eq_ok h
    rw [applyOutcome, addOutcome, hstart]
    exact ⟨_, rfl⟩
  cases job with
  | outcome a success =>
    obtain ⟨q', hq'⟩ := houtcome (change_outcome_eq_ok h) q
    refine ⟨q', ?_⟩
    rw [change, hq']
    rfl
  | feedback a f =>
    obtain ⟨moved, bias, hmoved, hbias, -⟩ := change_feedback_eq_ok h
    have hfeedback : ∃ q', applyFeedback s now a f vector q = .ok q' := by
      unfold applyFeedback at hmoved ⊢
      by_cases hextends : f.extendsBaseline s = true
      · simp only [if_pos hextends] at hmoved ⊢
        exact houtcome hmoved _
      · simp only [if_neg hextends]
        exact ⟨_, rfl⟩
    obtain ⟨q', hq'⟩ := hfeedback
    have hbounds : -s.maxUserBias.abs ≤ s.maxUserBias.abs := by
      by_contra hnot
      rw [clampBias, if_neg hnot] at hbias
      cases hbias
    rw [change]
    simp only [hq', boundBias, clampBias, if_pos hbounds]
    exact ⟨_, rfl⟩

end Change

/-- A job at its time, with the embedder's answer if it asked for one. -/
structure Turn where
  now : Instant
  job : LearningJob
  answer : Option (Ending EmbeddingFindings)

namespace Turn

variable {s : LearningSettings} {t : Turn} {p p' : Profile}

def vector (t : Turn) : Except JobError (Option (List Float32)) :=
  match t.answer with
  | none => .ok none
  | some ending => vectorOf ending

def change (s : LearningSettings) (t : Turn) (p : Profile) : Except JobError Profile :=
  t.vector.bind fun vector => (Learning.change s t.now t.job vector {} p).2

/-- What stands under the key of the job after it: a job that panics leaves it as it is. -/
def revise (s : LearningSettings) (known : Option Profile) (t : Turn) : Option Profile :=
  match t.change s (known.getD (.new t.job.key t.now)) with
  | .ok p => some p
  | .error _ => known

/-- The job does not panic, whatever the profile. -/
def Succeeds (s : LearningSettings) (t : Turn) : Prop := ∀ p, ∃ p', t.change s p = .ok p'

lemma change_eq_ok (h : t.change s p = .ok p') :
    ∃ vector, t.vector = .ok vector ∧ (Learning.change s t.now t.job vector {} p).2 = .ok p' := by
  unfold change at h
  cases hvector : t.vector with
  | error e =>
    rw [hvector] at h
    cases h
  | ok vector =>
    rw [hvector] at h
    exact ⟨vector, rfl, h⟩

lemma succeeds_of_eq_ok (h : t.change s p = .ok p') : t.Succeeds s := by
  obtain ⟨vector, hvector, hchange⟩ := change_eq_ok h
  intro q
  rw [change, hvector]
  exact exists_change_of_eq_ok hchange q

lemma revise_of_eq_ok {known : Option Profile} (h : t.change s (known.getD (.new t.job.key t.now)) = .ok p) :
    t.revise s known = some p := by
  rw [revise, h]

lemma revise_of_not_succeeds {known : Option Profile} (h : ¬t.Succeeds s) : t.revise s known = known := by
  unfold revise
  split
  · rename_i hchange
    exact absurd (succeeds_of_eq_ok hchange) h
  · rfl

end Turn

variable {σ : Type} {s : LearningSettings} {embed : Embedder σ} {now : Instant} {job : LearningJob}
  {memory : σ} {state : LearningState} {content : String → Option Profile}

/-- What a job hears from the embedder, and what the embedder remembers then. -/
def ask (s : LearningSettings) (embed : Embedder σ) (job : LearningJob) (memory : σ) :
    σ × Option (Ending EmbeddingFindings) :=
  if job.needsVector s then
    let (memory, task) := embed job.attempt memory
    (memory, some task.ending)
  else (memory, none)

def turns (s : LearningSettings) (embed : Embedder σ) : List (Instant × LearningJob) → σ → List Turn
  | [], _ => []
  | (now, job) :: rest, memory =>
    let (memory, answer) := ask s embed job memory
    ⟨now, job, answer⟩ :: turns s embed rest memory

def handleAll (s : LearningSettings) (embed : Embedder σ) (jobs : List (Instant × LearningJob))
    (memory : σ) (state : LearningState) : σ × LearningState :=
  jobs.foldl
    (fun before timed =>
      let run := handle s embed timed.1 timed.2 before.1 before.2
      (run.memory, run.state))
    (memory, state)

/-- What jobs leave under a key in a store that was empty. -/
def profileAfter (s : LearningSettings) (embed : Embedder σ) (jobs : List (Instant × LearningJob))
    (memory : σ) (key : String) : Except StoreError (Option Profile) :=
  (handleAll s embed jobs memory { profiles := .memory }).2.profiles.load key

def endings (s : LearningSettings) (embed : Embedder σ) :
    List (Instant × LearningJob) → σ → LearningState → List (Except JobError Unit)
  | [], _, _ => []
  | (now, job) :: rest, memory, state =>
    let run := handle s embed now job memory state
    run.ending :: endings s embed rest run.memory run.state

lemma handleAll_append (first last : List (Instant × LearningJob)) :
    handleAll s embed (first ++ last) memory state =
      handleAll s embed last (handleAll s embed first memory state).1
        (handleAll s embed first memory state).2 :=
  List.foldl_append ..

lemma handleAll_of_disabled (h : s.enabled = false) (jobs : List (Instant × LearningJob)) :
    handleAll s embed jobs memory state = (memory, state) := by
  induction jobs with
  | nil => rfl
  | cons timed jobs ih =>
    have hrun : (handle s embed timed.1 timed.2 memory state).memory = memory ∧
        (handle s embed timed.1 timed.2 memory state).state = state := by
      simp only [handle, h, Bool.not_false, if_true, and_self]
    rw [handleAll, List.foldl_cons]
    simp only [hrun]
    exact ih

lemma vectorFor_eq (now : Instant) :
    vectorFor s embed job memory = Turn.vector ⟨now, job, (ask s embed job memory).2⟩ := by
  unfold vectorFor ask
  split <;> rfl

lemma handle_memory (h : s.enabled = true) :
    (handle s embed now job memory state).memory = (ask s embed job memory).1 := by
  have hperform : (perform s embed now job memory state).memory = (ask s embed job memory).1 := by
    unfold perform ask
    split
    · dsimp only
      split <;> rfl
    · rfl
  rw [← hperform]
  simp only [handle, h, Bool.not_true, Bool.false_eq_true, if_false]
  split <;> rfl

/-- A job on a store in memory ends as its turn does, and changes the profile under its key accordingly. -/
lemma handle_of_holds (embed : Embedder σ) (henabled : s.enabled = true)
    (h : state.profiles.Holds content) (now : Instant) (job : LearningJob) (memory : σ) :
    let run := handle s embed now job memory state
    let turn : Turn := ⟨now, job, (ask s embed job memory).2⟩
    (run.ending = .ok () ↔ turn.Succeeds s) ∧
      run.state.profiles.Holds (Function.update content job.key (turn.revise s (content job.key))) := by
  intro run turn
  have hvector : vectorFor s embed job memory = turn.vector := vectorFor_eq now
  have hload := h.load job.key
  -- A turn that does not succeed leaves what is stored, and the job panics.
  have hfails (state' : LearningState) (hstate : state'.profiles = state.profiles) (hnot : ¬turn.Succeeds s)
      (hresult : run.result = (state', .error .panicked)) :
      (run.ending = .ok () ↔ turn.Succeeds s) ∧ run.state.profiles.Holds
        (Function.update content job.key (turn.revise s (content job.key))) := by
    rw [show run.ending = .error .panicked from congrArg Prod.snd hresult,
      show run.state = state' from congrArg Prod.fst hresult, hstate, Turn.revise_of_not_succeeds hnot,
      Function.update_eq_self]
    exact ⟨iff_of_false (by simp) hnot, h⟩
  cases hturn : turn.vector with
  | error e =>
    refine hfails state rfl (fun hsucceeds => ?_) (handle_of_error henabled (hvector.trans hturn))
    obtain ⟨p, hp⟩ := hsucceeds (.new job.key now)
    rw [Turn.change, hturn] at hp
    cases hp
  | ok vector =>
    have hresult : run.result = finished (apply s now job vector state) :=
      handle_of_vector henabled (hvector.trans hturn)
    have hchange : turn.change s ((content job.key).getD (.new job.key now)) =
        (change s now job vector state.stats ((content job.key).getD (.new job.key now))).2 := by
      rw [change_snd, Turn.change, hturn]
      rfl
    obtain ⟨stats, changed, heq⟩ : ∃ stats changed, change s now job vector state.stats
        ((content job.key).getD (.new job.key now)) = (stats, changed) := ⟨_, _, rfl⟩
    rw [heq] at hchange
    cases changed with
    | error e =>
      rw [apply_of_change_error hload heq, change_error (congrArg Prod.snd heq)] at hresult
      refine hfails { state with stats } rfl (fun hsucceeds => ?_) hresult
      obtain ⟨p, hp⟩ := hsucceeds ((content job.key).getD (.new job.key now))
      rw [hchange] at hp
      cases hp
    | ok p =>
      obtain ⟨saved, hsave, hsaved⟩ := h.save p
      rw [apply_of_change hload heq hsave] at hresult
      have hid : p.userId = job.key := by
        rw [userId_change (congrArg Prod.snd heq)]
        cases hknown : content job.key with
        | none => rfl
        | some q => exact h.userId _ q hknown
      refine ⟨iff_of_true (congrArg Prod.snd hresult) (Turn.succeeds_of_eq_ok hchange), ?_⟩
      rw [Turn.revise_of_eq_ok hchange,
        show run.state = ⟨saved, stats.finish job⟩ from congrArg Prod.fst hresult, ← hid]
      exact hsaved

/-- What stands under a key comes from the turns of this key alone, in their order. -/
theorem handleAll_of_holds (henabled : s.enabled = true) (h : state.profiles.Holds content)
    (jobs : List (Instant × LearningJob)) (memory : σ) :
    (handleAll s embed jobs memory state).2.profiles.Holds fun key =>
      ((turns s embed jobs memory).filter fun t => t.job.key = key).foldl (Turn.revise s) (content key) := by
  induction jobs generalizing memory state content with
  | nil => exact h
  | cons timed jobs ih =>
    obtain ⟨now, job⟩ := timed
    have hnext := ih (handle_of_holds embed henabled h now job memory).2
      (handle s embed now job memory state).memory
    rw [handle_memory henabled] at hnext
    have hcontent : (fun key => ((turns s embed ((now, job) :: jobs) memory).filter
        fun t => t.job.key = key).foldl (Turn.revise s) (content key)) = fun key =>
        ((turns s embed jobs (ask s embed job memory).1).filter
          fun t => t.job.key = key).foldl (Turn.revise s) (Function.update content job.key
            (Turn.revise s (content job.key) ⟨now, job, (ask s embed job memory).2⟩) key) := by
      funext key
      rw [turns, List.filter_cons]
      by_cases hkey : job.key = key
      · subst hkey
        simp
      · simp [hkey, Function.update_of_ne (Ne.symm hkey)]
    have hrest : handleAll s embed ((now, job) :: jobs) memory state =
        handleAll s embed jobs (ask s embed job memory).1 (handle s embed now job memory state).state := by
      rw [← handle_memory henabled]
      rfl
    rw [hcontent, hrest]
    exact hnext

lemma holds_empty : (LearningState.mk .memory {}).profiles.Holds fun _ => none := .memory

lemma holds_handleAll (embed : Embedder σ) (henabled : s.enabled = true)
    (jobs : List (Instant × LearningJob)) (memory : σ) :
    (handleAll s embed jobs memory { profiles := .memory }).2.profiles.Holds fun key =>
      ((turns s embed jobs memory).filter fun t => t.job.key = key).foldl (Turn.revise s) none :=
  handleAll_of_holds henabled holds_empty jobs memory

lemma profileAfter_of_enabled (henabled : s.enabled = true) (jobs : List (Instant × LearningJob))
    (memory : σ) (key : String) :
    profileAfter s embed jobs memory key =
      .ok (((turns s embed jobs memory).filter fun t => t.job.key = key).foldl (Turn.revise s) none) :=
  (holds_handleAll embed henabled jobs memory).load key

lemma profileAfter_of_disabled (h : s.enabled = false) (jobs : List (Instant × LearningJob)) (memory : σ)
    (key : String) : profileAfter s embed jobs memory key = .ok none := by
  rw [profileAfter, handleAll_of_disabled h]
  rfl

lemma userId_of_profileAfter (henabled : s.enabled = true) {jobs : List (Instant × LearningJob)}
    {key : String} {p : Profile} (h : profileAfter s embed jobs memory key = .ok (some p)) :
    p.userId = key := by
  have hholds := holds_handleAll embed henabled jobs memory
  rw [profileAfter, hholds.load, Except.ok.injEq] at h
  exact hholds.userId key p h

lemma succeeds_of_endings (henabled : s.enabled = true) (h : state.profiles.Holds content)
    {jobs : List (Instant × LearningJob)}
    (hok : ∀ ending ∈ endings s embed jobs memory state, ending = .ok ()) :
    ∀ t ∈ turns s embed jobs memory, t.Succeeds s := by
  induction jobs generalizing memory state content with
  | nil => simp [turns]
  | cons timed jobs ih =>
    obtain ⟨now, job⟩ := timed
    obtain ⟨hsucceeds, hnext⟩ := handle_of_holds embed henabled h now job memory
    rw [endings, List.forall_mem_cons, handle_memory henabled] at hok
    rw [turns, List.forall_mem_cons]
    exact ⟨hsucceeds.mp hok.1, ih hnext hok.2⟩

lemma foldl_revise_eq_none {ts : List Turn} (h : ∀ t ∈ ts, t.Succeeds s) :
    ts.foldl (Turn.revise s) none = none ↔ ts = [] := by
  induction ts using List.reverseRecOn with
  | nil => simp
  | append_singleton ts t _ =>
    obtain ⟨p, hp⟩ := h t (by simp) (((ts.foldl (Turn.revise s) none)).getD (.new t.job.key t.now))
    rw [List.foldl_append, List.foldl_cons, List.foldl_nil, Turn.revise_of_eq_ok hp]
    simp

lemma map_turns (s : LearningSettings) (embed : Embedder σ) (jobs : List (Instant × LearningJob))
    (memory : σ) :
    (turns s embed jobs memory).map (fun t => (t.now, t.job)) = jobs := by
  induction jobs generalizing memory with
  | nil => rfl
  | cons timed jobs ih => rw [turns, List.map_cons, ih]

lemma filter_turns_eq_nil {jobs : List (Instant × LearningJob)} {key : String} :
    (turns s embed jobs memory).filter (fun t => t.job.key = key) = [] ↔
      ∀ timed ∈ jobs, timed.2.key ≠ key := by
  conv_rhs => rw [← map_turns s embed jobs memory]
  simp [List.filter_eq_nil_iff]

end Learning

end LoginRisk
