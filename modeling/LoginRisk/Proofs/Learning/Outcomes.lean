import LoginRisk.Proofs.Learning.Stored

/-!
Which outcomes are stored. Each outcome is added within the limit before those from before the look-back are dropped,
itself included: an outcome that is too old to be kept still pushes the oldest one out of a full history.
-/

namespace LoginRisk.Learning

def since (start : Instant) (outcomes : List LoginOutcome) : List LoginOutcome :=
  outcomes.filter fun o => start ≤ o.timestamp

/-- What is kept of the outcomes that have been entered. There is one place less after one that is too old. -/
def keptOutcomes (limit : ℕ) (start : Instant) (entered : List LoginOutcome) : List LoginOutcome :=
  (since start entered).rtake (if ∀ o ∈ entered.getLast?, start ≤ o.timestamp then limit else limit - 1)

section Lists

variable {start : Instant} {o : LoginOutcome} {outcomes : List LoginOutcome}

lemma since_of_rtake (h : since start outcomes = outcomes) (n : ℕ) :
    since start (outcomes.rtake n) = outcomes.rtake n :=
  List.filter_eq_self.mpr fun o ho => List.filter_eq_self.mp h o (List.mem_of_mem_drop ho)

lemma since_since (start : Instant) (outcomes : List LoginOutcome) :
    since start (since start outcomes) = since start outcomes :=
  List.filter_eq_self.mpr fun _ ho => (List.mem_filter.mp ho).2

/-- Adding an outcome to recent ones leaves one place less for these, and takes it only if it is recent itself. -/
lemma since_pushBounded (h : since start outcomes = outcomes) (o : LoginOutcome) (n : ℕ) :
    since start (pushBounded outcomes o (n + 1)) = outcomes.rtake n ++ if start ≤ o.timestamp then [o] else [] := by
  change since start ((outcomes ++ [o]).rtake (n + 1)) = _
  rw [List.rtake_concat_succ, since, List.filter_append, ← since, since_of_rtake h]
  by_cases ho : start ≤ o.timestamp <;> simp [ho]

lemma since_keptOutcomes (limit : ℕ) (start : Instant) (entered : List LoginOutcome) :
    since start (keptOutcomes limit start entered) = keptOutcomes limit start entered :=
  since_of_rtake (since_since start entered) _

@[simp] lemma keptOutcomes_nil (limit : ℕ) (start : Instant) : keptOutcomes limit start [] = [] := List.drop_nil

lemma keptOutcomes_concat (n : ℕ) (start : Instant) (entered : List LoginOutcome) (o : LoginOutcome) :
    keptOutcomes (n + 1) start (entered ++ [o]) =
      since start (pushBounded (keptOutcomes (n + 1) start entered) o (n + 1)) := by
  -- A place that was lost before makes no difference: the new outcome needs one in any case.
  have hplaces : (keptOutcomes (n + 1) start entered).rtake n = (since start entered).rtake n := by
    rw [keptOutcomes, rtake_rtake, Nat.add_sub_cancel]
    split <;> simp
  rw [since_pushBounded (since_keptOutcomes _ start entered), hplaces, keptOutcomes, since, List.filter_append, ← since,
    List.getLast?_concat]
  by_cases ho : start ≤ o.timestamp
  · simp [ho, List.rtake_concat_succ]
  · simp [ho]

/-- What is kept is the last of the recent outcomes, unless the last outcome is too old and the history is full. -/
lemma keptOutcomes_eq_iff (n : ℕ) (start : Instant) (entered : List LoginOutcome) :
    keptOutcomes (n + 1) start entered = (since start entered).rtake (n + 1) ↔
      (∀ o ∈ entered.getLast?, start ≤ o.timestamp) ∨ (since start entered).length < n + 1 := by
  rw [keptOutcomes, Nat.add_sub_cancel, Nat.lt_succ_iff]
  split
  · rename_i hrecent
    exact iff_of_true rfl (.inl hrecent)
  · rename_i hold
    rw [rtake_eq_rtake_succ_iff, or_iff_right hold]

lemma since_replicate_concat {old : LoginOutcome} (ho : start ≤ o.timestamp) (hold : ¬start ≤ old.timestamp) (n : ℕ) :
    since start (List.replicate n o ++ [old]) = List.replicate n o := by
  simp [since, ho, hold]

lemma keptOutcomes_replicate_concat {old : LoginOutcome} (ho : start ≤ o.timestamp) (hold : ¬start ≤ old.timestamp)
    (limit : ℕ) : keptOutcomes limit start (List.replicate limit o ++ [old]) = List.replicate (limit - 1) o := by
  have hleft : limit - (limit - (limit - 1)) = limit - 1 := by omega
  rw [keptOutcomes, since_replicate_concat ho hold, List.getLast?_concat, if_neg fun h => hold (h old rfl),
    List.rtake, List.length_replicate, List.drop_replicate, hleft]

end Lists

section Change

variable {s : LearningSettings} {now start : Instant} {vector : Option (List Float32)} {p p' : Profile}

lemma outcomes_learnSuccess (a : Attempt) (p : Profile) : (learnSuccess s a vector p).outcomes = p.outcomes := by
  obtain ⟨_, _, _, _, _, _, _, hlearned⟩ := exists_learnSuccess a vector s p
  rw [hlearned]

lemma outcomes_addOutcome {o : LoginOutcome} (hstart : Profile.daysBefore now s.outcomeHistoryDays = .ok start)
    (h : addOutcome s now o p = .ok p') : p'.outcomes = since start (pushBounded p.outcomes o outcomeLimit) := by
  rw [addOutcome, hstart] at h
  have heq := Except.ok.inj h
  subst heq
  simp only [since]

lemma outcomes_applyOutcome (hstart : Profile.daysBefore now s.outcomeHistoryDays = .ok start) {a : Attempt}
    {success : Bool} (h : applyOutcome s now a success vector p = .ok p') : p'.outcomes =
      since start (pushBounded p.outcomes ⟨a.timestamp, success, a.clientAddress.text⟩ outcomeLimit) := by
  obtain ⟨added, hadded, h⟩ := exists_of_bind_eq_ok h
  cases h
  rw [← outcomes_addOutcome hstart hadded]
  cases success
  · rfl
  · exact outcomes_learnSuccess a added

lemma outcomes_change (hstart : Profile.daysBefore now s.outcomeHistoryDays = .ok start) {job : LearningJob}
    {stats : LearningStats} (h : (change s now job vector stats p).2 = .ok p') : p'.outcomes =
      (recorded? s job).elim p.outcomes fun o => since start (pushBounded p.outcomes o outcomeLimit) := by
  have hjudge (kind : FeedbackKind) (p : Profile) : (judge s p kind).outcomes = p.outcomes := by
    cases kind <;> rfl
  obtain ⟨hrecorded, hp⟩ | ⟨success, q, q', hrecorded, hq, hq', hp⟩ :=
    part_change Profile.outcomes hjudge (fun _ _ => rfl) h
  · rw [hp, hrecorded, Option.elim_none]
  · rw [hp, outcomes_applyOutcome hstart hq', hq, hrecorded, Option.elim_some]

end Change

def enteredBy (s : LearningSettings) (works : List Work) : List LoginOutcome :=
  works.filterMap fun w => recorded? s w.job

/-- The time of a work's attempt is what is decoded from its text. -/
def Work.Timed (w : Work) : Prop := Instant.read? w.job.attempt.timestamp.text = some w.job.attempt.timestamp

lemma timed_of_recorded {s : LearningSettings} {works : List Work} (h : ∀ w ∈ works, w.Timed) {o : LoginOutcome}
    (ho : o ∈ enteredBy s works) : Instant.read? o.timestamp.text = some o.timestamp := by
  obtain ⟨w, hw, hrecorded⟩ := List.mem_filterMap.mp ho
  rw [timestamp_of_recorded hrecorded]
  exact h w hw

/-- At one time, the works that are saved leave what is kept of the outcomes that they enter. -/
lemma maintains_outcomes {s : LearningSettings} {now start : Instant}
    (hstart : Profile.daysBefore now s.outcomeHistoryDays = .ok start) (key : String) {ws : List Work}
    (hnow : ∀ w ∈ ws, w.now = now) {contents : StoreContents}
    (htimed : (∃ profiles, contents = .memory profiles) ∨ ∀ w ∈ ws, w.Timed) :
    Maintains s key ws contents fun done p =>
      (∀ w ∈ done, w ∈ ws) ∧ p.outcomes = keptOutcomes outcomeLimit start (enteredBy s done) where
  new now := ⟨by simp, (keptOutcomes_nil _ start).symm⟩
  change {done w vector stats p p'} hw _ hp h := by
    refine ⟨List.forall_mem_append.mpr ⟨hp.1, List.forall_mem_singleton.mpr hw⟩, ?_⟩
    rw [hnow w hw] at h
    rw [outcomes_change hstart h, enteredBy, List.filterMap_append, hp.2]
    cases hrecorded : recorded? s w.job with
    | none => simp [hrecorded, enteredBy]
    | some o =>
      rw [Option.elim_some, show outcomeLimit = 499 + 1 from rfl, ← keptOutcomes_concat]
      simp [hrecorded, enteredBy]
  back {done p q} hp h := by
    refine ⟨hp.1, (h.outcomes (htimed.imp_right fun htimed o ho => ?_)).trans hp.2⟩
    rw [hp.2] at ho
    exact timed_of_recorded (fun w hw => htimed w (hp.1 w hw))
      (List.mem_of_mem_filter (List.mem_of_mem_drop ho))

section Memory

variable {σ : Type} {s : LearningSettings} {embed : Embedder σ} {now start : Instant} {state : LearningState}

lemma perform_outcome (hstart : Profile.daysBefore now s.outcomeHistoryDays = .ok start)
    (hembed : ∀ a memory, (embed a memory).2.ending ≠ .panicked) (a : Attempt) (success : Bool) (memory : σ)
    {entries : List (String × Profile)} (hstate : state.profiles = ⟨.memory entries, {}⟩) :
    let run := perform s embed now (.outcome a success) memory state
    run.ending = .ok () ∧ ∃ entries', run.state.profiles = ⟨.memory entries', {}⟩ := by
  intro run
  obtain ⟨vector, hvector⟩ := exists_vectorFor s (.outcome a success) memory hembed
  have hload : state.profiles.load a.profileKey = .ok (entries.lookup a.profileKey) := by
    rw [hstate]
    rfl
  obtain ⟨p, hp⟩ : ∃ p, applyOutcome s now a success vector
      ((entries.lookup a.profileKey).getD (.new a.profileKey now)) = .ok p := by
    rw [applyOutcome, addOutcome, hstart]
    exact ⟨_, rfl⟩
  have hchange : change s now (.outcome a success) vector state.stats
      ((entries.lookup a.profileKey).getD (.new a.profileKey now)) = (state.stats, .ok p) := by
    rw [change, hp]
    rfl
  have hsave : state.profiles.save p = .ok ⟨.memory (Assoc.put p.userId p entries), {}⟩ := by
    rw [hstate]
    rfl
  have hresult : run.result = (⟨⟨.memory (Assoc.put p.userId p entries), {}⟩, state.stats.finish (.outcome a success)⟩,
      .ok ()) := by
    rw [perform_result, hvector]
    exact apply_of_change hload hchange hsave
  exact ⟨congrArg Prod.snd hresult, _, congrArg (fun r => r.1.profiles) hresult⟩

lemma savedWorks_of_memory (hstart : Profile.daysBefore now s.outcomeHistoryDays = .ok start)
    (hembed : ∀ a memory, (embed a memory).2.ending ≠ .panicked) (key : String) {works : List Work}
    (hnow : ∀ w ∈ works, w.now = now) (houtcomes : ∀ w ∈ works,
      (∃ a success, w.job = .outcome a success) ∧ (w.queued = true → s.enabled = true)) (memory : σ)
    {entries : List (String × Profile)} (hstate : state.profiles = ⟨.memory entries, {}⟩) :
    savedWorks s embed key works memory state = works.filter (fun w => w.job.key = key) ∧
      ∃ entries', (after s embed works memory state).2.profiles = ⟨.memory entries', {}⟩ := by
  induction works generalizing memory state entries with
  | nil => exact ⟨rfl, entries, hstate⟩
  | cons w works ih =>
    rw [List.forall_mem_cons] at hnow houtcomes
    obtain ⟨⟨a, success, hjob⟩, hon⟩ := houtcomes.1
    obtain ⟨hok, entries', hentries⟩ := perform_outcome hstart hembed a success memory hstate
    rw [← hjob, ← hnow.1] at hok hentries
    have hsaves : w.saves s embed memory state = true := by
      rw [Work.saves, hok]
      cases hqueued : w.queued with
      | false => rfl
      | true =>
        rw [hon hqueued]
        rfl
    have hrun : (w.run s embed memory state).state.profiles = ⟨.memory entries', {}⟩ := by
      rw [Work.run]
      split
      · rename_i hqueued
        rw [handle_profiles, if_pos (hon hqueued)]
        exact hentries
      · exact hentries
    obtain ⟨hsaved, hafter⟩ := ih hnow.2 houtcomes.2 (w.run s embed memory state).memory hrun
    refine ⟨?_, hafter⟩
    rw [savedWorks, hsaved, hsaves, List.filter_cons, Bool.true_and]

end Memory

section Stored

variable {σ : Type} {s : LearningSettings} {now start : Instant}

lemma outcomes_after (embed : Embedder σ) (hstart : Profile.daysBefore now s.outcomeHistoryDays = .ok start)
    {works : List Work} (hnow : ∀ w ∈ works, w.now = now) (memory : σ) {state : LearningState}
    (hvacant : state.profiles.Vacant) (key : String)
    (htimed : (∃ profiles, state.profiles.contents = .memory profiles) ∨ ∀ w ∈ works, w.Timed)
    {found : Option Profile} (hfound : (after s embed works memory state).2.profiles.load key = .ok found) :
    (found = none ↔ savedWorks s embed key works memory state = []) ∧ ∀ p, found = some p →
      p.outcomes = keptOutcomes outcomeLimit start (enteredBy s (savedWorks s embed key works memory state)) := by
  have hkept : Maintained key state.profiles.contents _ (savedWorks s embed key works memory state) _ :=
    maintained_after hvacant (maintains_outcomes hstart key hnow htimed)
  refine ⟨hkept.none_iff found hfound, ?_⟩
  rintro p rfl
  exact (hkept.holds p hfound).2

lemma outcomes_after_in_memory {embed : Embedder σ} (hembed : ∀ a memory, (embed a memory).2.ending ≠ .panicked)
    (hstart : Profile.daysBefore now s.outcomeHistoryDays = .ok start) {works : List Work}
    (hnow : ∀ w ∈ works, w.now = now) (houtcomes : ∀ w ∈ works,
      (∃ a success, w.job = .outcome a success) ∧ (w.queued = true → s.enabled = true)) (memory : σ)
    {state : LearningState} (hmemory : state.profiles = .memory) (key : String) :
    savedWorks s embed key works memory state = works.filter (fun w => w.job.key = key) ∧
      (works.filter (fun w => w.job.key = key) ≠ [] →
        ∃ p, (after s embed works memory state).2.profiles.load key = .ok (some p)) := by
  obtain ⟨hsaved, entries, hentries⟩ := savedWorks_of_memory hstart hembed key hnow houtcomes memory hmemory
  refine ⟨hsaved, fun hsome => ?_⟩
  have hload : (after s embed works memory state).2.profiles.load key = .ok (entries.lookup key) := by
    rw [hentries]
    rfl
  obtain ⟨hnone, -⟩ := outcomes_after embed hstart hnow memory (hmemory ▸ ProfileStore.vacant_memory) key
    (.inl ⟨_, congrArg ProfileStore.contents hmemory⟩) hload
  rw [hsaved] at hnone
  obtain ⟨p, hp⟩ := Option.ne_none_iff_exists'.mp (mt hnone.mp hsome)
  exact ⟨p, hload.trans (congrArg Except.ok hp)⟩

lemma outcomes_of_old_outcome (hstart : Profile.daysBefore now s.outcomeHistoryDays = .ok start) {p p' : Profile}
    (hp : since start p.outcomes = p.outcomes) {o : LoginOutcome} (ho : ¬start ≤ o.timestamp)
    (h : addOutcome s now o p = .ok p') : p'.outcomes = p.outcomes ↔ p.outcomes.length < outcomeLimit := by
  have hadded := outcomes_addOutcome hstart h
  rw [show outcomeLimit = 499 + 1 from rfl, since_pushBounded hp, if_neg ho, List.append_nil] at hadded
  rw [hadded, rtake_eq_self_iff, show outcomeLimit = 499 + 1 from rfl, Nat.lt_succ_iff]

/-- Which outcomes are stored of a user after works at one time, in any order of their attempts. They are the last
recent ones up to the limit, unless the last outcome of all was too old and there is no room for all recent ones: then
there is one less. An outcome that is too old changes nothing just if the history is not full. -/
theorem outcomes_of_works (s : LearningSettings) (embed : Embedder σ)
    (hstart : Profile.daysBefore now s.outcomeHistoryDays = .ok start) {works : List Work}
    (hnow : ∀ w ∈ works, w.now = now) (memory : σ) (state : LearningState) (hvacant : state.profiles.Vacant)
    (key : String)
    (htimed : (∃ profiles, state.profiles.contents = .memory profiles) ∨ ∀ w ∈ works, w.Timed) :
    let saved := savedWorks s embed key works memory state
    let entered := enteredBy s saved
    let store := (after s embed works memory state).2.profiles
    (state.profiles = .memory → (∀ a memory, (embed a memory).2.ending ≠ .panicked) →
      (∀ w ∈ works, (∃ a success, w.job = .outcome a success) ∧ (w.queued = true → s.enabled = true)) →
      saved = works.filter (fun w => w.job.key = key) ∧
        (works.filter (fun w => w.job.key = key) ≠ [] → ∃ p, store.load key = .ok (some p))) ∧
    (store.load key = .ok none → saved = []) ∧
    ∀ p, store.load key = .ok (some p) →
      p.outcomes = keptOutcomes outcomeLimit start entered ∧
      (p.outcomes = (since start entered).rtake outcomeLimit ↔
        (∀ o ∈ entered.getLast?, start ≤ o.timestamp) ∨ (since start entered).length < outcomeLimit) ∧
      ∀ o p', ¬start ≤ o.timestamp → addOutcome s now o p = .ok p' →
        (p'.outcomes = p.outcomes ↔ p.outcomes.length < outcomeLimit) := by
  intro saved entered store
  have hstored {found : Option Profile} (hfound : store.load key = .ok found) :=
    outcomes_after embed hstart hnow memory hvacant key htimed hfound
  refine ⟨fun hmemory hembed houtcomes =>
    outcomes_after_in_memory hembed hstart hnow houtcomes memory hmemory key,
    fun hnone => (hstored hnone).1.mp rfl, fun p hp => ?_⟩
  have houtcomes : p.outcomes = keptOutcomes outcomeLimit start entered := (hstored hp).2 p rfl
  refine ⟨houtcomes, ?_, fun o p' ho h => outcomes_of_old_outcome hstart ?_ ho h⟩
  · rw [houtcomes]
    exact keptOutcomes_eq_iff 499 start entered
  · rw [houtcomes, since_keptOutcomes]

/-- Failed logins at some times, entered a hundred days after the start of 1970. -/
def failuresAt (times : List ℤ) : List Work :=
  times.map fun t => ⟨⟨8640000, 0⟩, .outcome (attemptFrom "phone" t) false, true⟩

def failureAt (t : ℤ) : LoginOutcome := ⟨⟨t, 0⟩, false, "0.0.0.0"⟩

lemma enteredBy_failuresAt (times : List ℤ) : enteredBy {} (failuresAt times) = times.map failureAt := by
  have haddress : bareAttempt.clientAddress.text = "0.0.0.0" := by decide +kernel
  rw [enteredBy, failuresAt, List.filterMap_map, ← List.filterMap_eq_map]
  refine List.filterMap_congr fun t _ => ?_
  change some (LoginOutcome.mk ⟨t, 0⟩ false bareAttempt.clientAddress.text) = some (failureAt t)
  rw [haddress]
  rfl

lemma now_of_failuresAt (times : List ℤ) : ∀ w ∈ failuresAt times, w.now = ⟨8640000, 0⟩ := by
  simp [failuresAt]

lemma outcomes_of_failuresAt (times : List ℤ) : ∀ w ∈ failuresAt times,
    (∃ a success, w.job = .outcome a success) ∧ (w.queued = true → ({} : LearningSettings).enabled = true) := by
  simp [failuresAt]

lemma own_failuresAt (times : List ℤ) : (failuresAt times).filter (fun w => w.job.key = "") = failuresAt times := by
  have hbare : bareAttempt.profileKey = "" := by decide +kernel
  refine List.filter_eq_self.mpr fun w hw => ?_
  obtain ⟨t, -, rfl⟩ := List.mem_map.mp hw
  have hkey : (attemptFrom "phone" t).profileKey = bareAttempt.profileKey := rfl
  exact decide_eq_true (hkey.trans hbare)

/-- A late outcome, an early one and one that is too old, in that order. -/
theorem outcomes_out_of_order : ∃ p, (after {} constantEmbedder (failuresAt [8640000, 6048000, 0]) ()
      { profiles := .memory }).2.profiles.load "" = .ok (some p) ∧
    p.outcomes = [failureAt 8640000, failureAt 6048000] := by
  have hstart : Profile.daysBefore ⟨8640000, 0⟩ ({} : LearningSettings).outcomeHistoryDays = .ok ⟨6048000, 0⟩ := by
    decide +kernel
  obtain ⟨hmemory, -, hstored⟩ := outcomes_of_works {} constantEmbedder hstart
    (now_of_failuresAt [8640000, 6048000, 0]) () { profiles := .memory } ProfileStore.vacant_memory "" (.inl ⟨_, rfl⟩)
  obtain ⟨hsaved, hexists⟩ := hmemory rfl constantEmbedder_ending (outcomes_of_failuresAt _)
  rw [own_failuresAt] at hsaved hexists
  obtain ⟨p, hp⟩ := hexists (List.cons_ne_nil _ _)
  refine ⟨p, hp, (hstored p hp).1.trans ?_⟩
  rw [hsaved, enteredBy_failuresAt]
  decide +kernel

lemma stored_of_failuresAt {times : List ℤ} (h : times ≠ []) :
    savedWorks {} constantEmbedder "" (failuresAt times) () { profiles := .memory } = failuresAt times ∧
    ∃ p, (after {} constantEmbedder (failuresAt times) () { profiles := .memory }).2.profiles.load "" = .ok (some p) ∧
      p.outcomes = keptOutcomes outcomeLimit ⟨6048000, 0⟩ (times.map failureAt) := by
  have hstart : Profile.daysBefore ⟨8640000, 0⟩ ({} : LearningSettings).outcomeHistoryDays = .ok ⟨6048000, 0⟩ := by
    decide +kernel
  have hmemory : ({ profiles := .memory } : LearningState).profiles = .memory := rfl
  obtain ⟨hsaved, hexists⟩ := outcomes_after_in_memory constantEmbedder_ending hstart (now_of_failuresAt times)
    (outcomes_of_failuresAt times) () hmemory ""
  rw [own_failuresAt] at hsaved hexists
  obtain ⟨p, hp⟩ := hexists (mt List.map_eq_nil_iff.mp h)
  obtain ⟨-, hstored⟩ := outcomes_after constantEmbedder hstart (now_of_failuresAt times) ()
    ProfileStore.vacant_memory "" (.inl ⟨_, rfl⟩) hp
  refine ⟨hsaved, p, hp, (hstored p rfl).trans ?_⟩
  rw [hsaved, enteredBy_failuresAt]

/-- After five hundred recent outcomes one that is too old leaves four hundred and ninety-nine of them. -/
theorem old_outcome_evicts :
    let works := failuresAt (List.replicate 500 8640000 ++ [0])
    let saved := savedWorks {} constantEmbedder "" works () { profiles := .memory }
    saved = works ∧
    (since ⟨6048000, 0⟩ (enteredBy {} saved)).rtake outcomeLimit = List.replicate 500 (failureAt 8640000) ∧
    ∃ p, (after {} constantEmbedder works () { profiles := .memory }).2.profiles.load "" = .ok (some p) ∧
      p.outcomes = List.replicate 499 (failureAt 8640000) := by
  have hrecent : (⟨6048000, 0⟩ : Instant) ≤ (failureAt 8640000).timestamp := by decide +kernel
  have hold : ¬(⟨6048000, 0⟩ : Instant) ≤ (failureAt 0).timestamp := by decide +kernel
  obtain ⟨hsaved, p, hp, houtcomes⟩ := stored_of_failuresAt (List.concat_ne_nil 0 (List.replicate 500 8640000))
  rw [List.map_append, List.map_replicate, List.map_singleton] at houtcomes
  refine ⟨hsaved, ?_, p, hp, houtcomes.trans (keptOutcomes_replicate_concat hrecent hold outcomeLimit)⟩
  rw [hsaved, enteredBy_failuresAt, List.map_append, List.map_replicate, List.map_singleton,
    since_replicate_concat hrecent hold]
  exact (rtake_eq_self_iff _ _).mpr List.length_replicate.le

end Stored

end LoginRisk.Learning
