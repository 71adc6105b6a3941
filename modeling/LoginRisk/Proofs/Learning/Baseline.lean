import LoginRisk.Proofs.Learning.Sequence
import LoginRisk.Proofs.Profile.Recency

/-!
What is usual for a user, read off the jobs. Whatever jobs are handled from an empty store on, the bounded
lists and the counts of hours in a profile are those of the logins that taught it something: neither other
jobs nor what has been learned and dropped before leaves a trace in them.
-/

namespace LoginRisk.Learning

/-- Whether a job shows what is usual for its user: a login that succeeded, or one that was wrongly flagged
by the word of someone sure enough. -/
def teaches (s : LearningSettings) : LearningJob → Bool
  | .outcome _ success => success
  | .feedback _ f => f.kind = .falsePositive && s.minFeedbackConfidence ≤ f.confidence

lemma teaches_eq (s : LearningSettings) (job : LearningJob) :
    teaches s job = (recorded? s job).any LoginOutcome.success := by
  cases job with
  | outcome a success => rfl
  | feedback a f =>
    change f.extendsBaseline s = _
    rw [recorded?]
    cases f.extendsBaseline s <;> rfl

structure Lesson where
  attempt : Attempt
  answer : Ending EmbeddingFindings

def Lesson.vector? (l : Lesson) : Option (List Float32) :=
  match l.answer with
  | .value e => if e.vector = [] then none else some e.vector
  | _ => none

/-- The lessons of jobs in their order. The embedder hears of no other jobs. -/
def lessons {σ : Type} (s : LearningSettings) (embed : Embedder σ) :
    List (Instant × LearningJob) → σ → List Lesson
  | [], _ => []
  | (_, job) :: rest, memory =>
    if teaches s job then
      let (memory, task) := embed job.attempt memory
      ⟨job.attempt, task.ending⟩ :: lessons s embed rest memory
    else lessons s embed rest memory

@[ext]
structure Habits where
  hours : Vector UInt32 24
  locations : List String
  devices : List String
  userAgents : List String
  logins : List Instant
  embeddings : List (List Float32)

def habits (p : Profile) : Habits :=
  ⟨p.hourHistogram, p.knownLocations, p.knownDevices, p.knownUserAgents, p.recentLogins, p.typicalEmbeddings⟩

/-- What lessons show to be usual. The logins at an hour are counted modulo `2 ^ 32`. Of a list with repetitions,
`List.dedup` keeps the last of each item. -/
def habitsOf (s : LearningSettings) (ls : List Lesson) : Habits where
  hours := .ofFn fun h => .ofNat (ls.countP fun l => l.attempt.timestamp.hour = h)
  locations := (ls.filterMap fun l => l.attempt.place.map Place.key).dedup.rtake s.maxKnownLocations
  devices := (ls.map fun l => l.attempt.deviceKey).dedup.rtake s.maxKnownDevices
  userAgents := (ls.map fun l => l.attempt.userAgent).dedup.rtake s.maxKnownDevices
  logins := (ls.map fun l => l.attempt.timestamp).rtake s.maxLoginHistory
  embeddings := (ls.filterMap Lesson.vector?).rtake s.maxTypicalEmbeddings

def Habits.learn (s : LearningSettings) (a : Attempt) (vector : Option (List Float32)) (h : Habits) :
    Habits where
  hours := .ofFn fun i => h.hours.get i + if i = a.timestamp.hour then 1 else 0
  locations := a.place.elim h.locations fun place => remember h.locations place.key s.maxKnownLocations
  devices := remember h.devices a.deviceKey s.maxKnownDevices
  userAgents := remember h.userAgents a.userAgent s.maxKnownDevices
  logins := pushBounded h.logins a.timestamp s.maxLoginHistory
  embeddings := vector.elim h.embeddings fun v => pushBounded h.embeddings v s.maxTypicalEmbeddings

variable {σ : Type} {s : LearningSettings} {embed : Embedder σ} {memory : σ}

lemma habitsOf_concat (s : LearningSettings) (ls : List Lesson) (l : Lesson) :
    habitsOf s (ls ++ [l]) = (habitsOf s ls).learn s l.attempt l.vector? := by
  rw [Habits.ext_iff]
  refine ⟨?_, ?_, ?_, ?_, ?_, ?_⟩
  · refine Vector.ext fun i hi => ?_
    simp only [habitsOf, Habits.learn, Vector.getElem_ofFn, Vector.get_ofFn]
    rw [List.countP_append, UInt32.ofNat_add, List.countP_singleton]
    by_cases hour : ⟨i, hi⟩ = l.attempt.timestamp.hour
    · simp [hour]
    · simp [hour, Ne.symm hour]
  · simp only [habitsOf, Habits.learn, List.filterMap_append]
    cases hplace : l.attempt.place <;> simp [hplace, remember_rtake]
  · simp [habitsOf, Habits.learn, remember_rtake]
  · simp [habitsOf, Habits.learn, remember_rtake]
  · simp [habitsOf, Habits.learn, pushBounded_rtake]
  · simp only [habitsOf, Habits.learn, List.filterMap_append]
    cases hvector : l.vector? <;> simp [hvector, pushBounded_rtake]

lemma habits_countHour (h : Fin 24) (p : Profile) : habits (countHour h p) = { habits p with
    hours := .ofFn fun i => (habits p).hours.get i + if i = h then 1 else 0 } := by
  simp only [habits, countHour]

lemma habits_learnPlace (place : Option Place) (p : Profile) :
    habits (learnPlace s place p) = { habits p with
      locations := place.elim (habits p).locations fun place =>
        remember (habits p).locations place.key s.maxKnownLocations } := by
  have hcountry (country : String) : habits (learnCountry country p) = habits p := by
    unfold learnCountry
    split <;> rfl
  cases place with
  | none => rfl
  | some place =>
    rw [Option.elim_some, ← hcountry place.country]
    rfl

lemma habits_learnVector (vector : Option (List Float32)) (p : Profile) :
    habits (learnVector s vector p) = { habits p with
      embeddings := vector.elim (habits p).embeddings fun v =>
        pushBounded (habits p).embeddings v s.maxTypicalEmbeddings } := by
  cases vector <;> rfl

lemma habits_learnSuccess (a : Attempt) (vector : Option (List Float32)) (p : Profile) :
    habits (learnSuccess s a vector p) = (habits p).learn s a vector := by
  obtain ⟨q, hq⟩ : ∃ q, q = learnPlace s a.place (countHour a.timestamp.hour p) := ⟨_, rfl⟩
  have hhabits : habits q = { (habits p).learn s a vector with
      devices := (habits p).devices
      userAgents := (habits p).userAgents
      logins := (habits p).logins
      embeddings := (habits p).embeddings } := by
    rw [hq, habits_learnPlace, habits_countHour]
    rfl
  have hdevices : q.knownDevices = (habits p).devices := congrArg Habits.devices hhabits
  have hagents : q.knownUserAgents = (habits p).userAgents := congrArg Habits.userAgents hhabits
  have hlogins : q.recentLogins = (habits p).logins := congrArg Habits.logins hhabits
  have hlists (devices agents : List String) (logins : List Instant) :
      habits { q with knownDevices := devices, knownUserAgents := agents, recentLogins := logins } =
        { habits q with devices, userAgents := agents, logins } := rfl
  rw [learnSuccess, ← hq, habits_learnVector, hlists, hhabits, hdevices, hagents, hlogins]
  rfl

lemma habits_applyOutcome {now : Instant} {a : Attempt} {success : Bool} {vector : Option (List Float32)}
    {p p' : Profile} (h : applyOutcome s now a success vector p = .ok p') :
    habits p' = if success then (habits p).learn s a vector else habits p := by
  obtain ⟨-, -, outcomes, rfl⟩ := applyOutcome_eq_ok h
  cases success
  · rfl
  · exact habits_learnSuccess a vector { p with outcomes }

/-- A job that teaches nothing leaves what is usual as it is, also when it moves the bias. -/
lemma habits_change {now : Instant} {job : LearningJob} {vector : Option (List Float32)}
    {stats : LearningStats} {p p' : Profile} (h : (change s now job vector stats p).2 = .ok p') :
    habits p' = if teaches s job then (habits p).learn s job.attempt vector else habits p := by
  have hjudge (kind : FeedbackKind) (p : Profile) : habits (judge s p kind) = habits p := by
    cases kind <;> rfl
  obtain ⟨hrecorded, hp⟩ | ⟨success, q, q', hrecorded, hq, hq', hp⟩ := part_change habits hjudge (fun _ _ => rfl) h
  · rw [hp, teaches_eq, hrecorded]
    rfl
  · rw [hp, habits_applyOutcome hq', hq, teaches_eq, hrecorded]
    rfl

def Turn.lesson? (s : LearningSettings) (t : Turn) : Option Lesson :=
  if teaches s t.job then t.answer.map fun ending => ⟨t.job.attempt, ending⟩ else none

lemma needsVector_eq (s : LearningSettings) (job : LearningJob) : job.needsVector s = teaches s job := by
  cases job <;> rfl

lemma lessons_eq (s : LearningSettings) (embed : Embedder σ) (jobs : List (Instant × LearningJob))
    (memory : σ) :
    lessons s embed jobs memory = (turns s embed jobs memory).filterMap (Turn.lesson? s) := by
  induction jobs generalizing memory with
  | nil => rfl
  | cons timed jobs ih =>
    obtain ⟨now, job⟩ := timed
    rw [lessons, turns, List.filterMap_cons]
    by_cases hteaches : teaches s job = true
    · have hask : ask s embed job memory =
          ((embed job.attempt memory).1, some (embed job.attempt memory).2.ending) := by
        rw [ask, needsVector_eq, if_pos hteaches]
      simp [hteaches, hask, Turn.lesson?, ih]
    · have hask : ask s embed job memory = (memory, none) := by
        rw [ask, needsVector_eq, if_neg hteaches]
      simp [hteaches, hask, Turn.lesson?, ih]

lemma exists_answer {t : Turn} {jobs : List (Instant × LearningJob)} (h : t ∈ turns s embed jobs memory)
    (hteaches : teaches s t.job = true) : ∃ ending, t.answer = some ending := by
  induction jobs generalizing memory with
  | nil => simp [turns] at h
  | cons timed jobs ih =>
    obtain ⟨now, job⟩ := timed
    rw [turns, List.mem_cons] at h
    obtain rfl | h := h
    · refine ⟨(embed job.attempt memory).2.ending, ?_⟩
      rw [ask, needsVector_eq, if_pos hteaches]
    · exact ih h

lemma vector?_eq {l : Lesson} {vector : Option (List Float32)} (h : vectorOf l.answer = .ok vector) :
    l.vector? = vector := by
  unfold vectorOf at h
  unfold Lesson.vector?
  split at h <;> cases h <;> simp_all

lemma Turn.habits_change {t : Turn} {p p' : Profile} {ls : List Lesson} (h : t.change s p = .ok p')
    (hanswer : teaches s t.job = true → ∃ ending, t.answer = some ending) (hp : habits p = habitsOf s ls) :
    habits p' = habitsOf s (ls ++ [t].filterMap (Turn.lesson? s)) := by
  obtain ⟨vector, hvector, hchange⟩ := change_eq_ok h
  rw [Learning.habits_change hchange, hp]
  by_cases hteaches : teaches s t.job = true
  · obtain ⟨ending, hending⟩ := hanswer hteaches
    have hlesson : Lesson.vector? ⟨t.job.attempt, ending⟩ = vector := by
      rw [Turn.vector, hending] at hvector
      exact vector?_eq hvector
    have hadded : [t].filterMap (Turn.lesson? s) = [⟨t.job.attempt, ending⟩] := by
      simp [Turn.lesson?, hteaches, hending]
    rw [if_pos hteaches, hadded, habitsOf_concat, hlesson]
  · simp [Turn.lesson?, hteaches]

lemma habits_foldl {ts : List Turn} (hsucceeds : ∀ t ∈ ts, t.Succeeds s)
    (hanswer : ∀ t ∈ ts, teaches s t.job = true → ∃ ending, t.answer = some ending) (key : String)
    (now : Instant) :
    habits ((ts.foldl (Turn.revise s) none).getD (.new key now)) =
      habitsOf s (ts.filterMap (Turn.lesson? s)) := by
  induction ts using List.reverseRecOn generalizing key now with
  | nil =>
    have hhours : Vector.replicate 24 0 = Vector.ofFn fun _ : Fin 24 => (0 : UInt32) := by
      ext i hi
      simp
    simp [habits, habitsOf, Profile.new, hhours]
  | append_singleton ts t ih =>
    simp only [List.forall_mem_append, List.forall_mem_singleton] at hsucceeds hanswer
    obtain ⟨p, hp⟩ := hsucceeds.2 ((ts.foldl (Turn.revise s) none).getD (.new t.job.key t.now))
    have hbefore := ih hsucceeds.1 hanswer.1 t.job.key t.now
    rw [List.foldl_append, List.foldl_cons, List.foldl_nil, Turn.revise_of_eq_ok hp, Option.getD_some,
      Turn.habits_change hp hanswer.2 hbefore, List.filterMap_append]

lemma lessons_of_key (s : LearningSettings) (key : String) (ts : List Turn) :
    (ts.filter fun t => t.job.key = key).filterMap (Turn.lesson? s) =
      (ts.filterMap (Turn.lesson? s)).filter fun l => l.attempt.profileKey = key := by
  rw [List.filterMap_filter, List.filter_filterMap]
  congr 1
  funext t
  unfold Turn.lesson? LearningJob.key
  by_cases hkey : t.job.attempt.profileKey = key <;> cases t.answer <;>
    by_cases hteaches : teaches s t.job <;> simp [hkey, hteaches, Option.filter_some]

lemma nodup_habitsOf (s : LearningSettings) (ls : List Lesson) :
    (habitsOf s ls).locations.Nodup ∧ (habitsOf s ls).devices.Nodup ∧ (habitsOf s ls).userAgents.Nodup := by
  have hnodup (items : List String) (n : ℕ) : (items.dedup.rtake n).Nodup :=
    (List.nodup_dedup items).sublist (List.drop_sublist _ _)
  exact ⟨hnodup _ _, hnodup _ _, hnodup _ _⟩

/-- After jobs on an empty store of which none panics, there is a profile under the keys of the jobs, and
what is usual according to it is what the lessons of its user show. The known places, devices and user
agents are the last distinct ones by their latest lesson, without repetitions. -/
theorem habits_of_lessons (s : LearningSettings) (embed : Embedder σ) (jobs : List (Instant × LearningJob))
    (memory : σ) (hok : ∀ ending ∈ endings s embed jobs memory { profiles := .memory }, ending = .ok ())
    (key : String) :
    ∃ found, profileAfter s embed jobs memory key = .ok found ∧
      (found = none ↔ s.enabled = false ∨ ∀ timed ∈ jobs, timed.2.key ≠ key) ∧
      ∀ p, found = some p →
        habits p = habitsOf s ((lessons s embed jobs memory).filter fun l => l.attempt.profileKey = key) ∧
        p.knownLocations.Nodup ∧ p.knownDevices.Nodup ∧ p.knownUserAgents.Nodup := by
  cases henabled : s.enabled with
  | false => exact ⟨none, profileAfter_of_disabled henabled jobs memory key, by simp, by simp⟩
  | true =>
    have hsucceeds := succeeds_of_endings henabled holds_empty hok
    have hown : ∀ t ∈ (turns s embed jobs memory).filter fun t => t.job.key = key, t.Succeeds s :=
      fun t ht => hsucceeds t (List.mem_filter.mp ht).1
    refine ⟨_, profileAfter_of_enabled henabled jobs memory key, ?_, fun p hp => ?_⟩
    · rw [foldl_revise_eq_none hown, filter_turns_eq_nil]
      simp
    · have hhabits := habits_foldl hown (fun t ht => exists_answer (List.mem_filter.mp ht).1) key ⟨0, 0⟩
      rw [hp, Option.getD_some, lessons_of_key, ← lessons_eq] at hhabits
      refine ⟨hhabits, ?_⟩
      have hnodup := nodup_habitsOf s
        ((lessons s embed jobs memory).filter fun l => l.attempt.profileKey = key)
      rw [← hhabits] at hnodup
      exact hnodup

def attemptFrom (device : String) (seconds : ℤ) : Attempt :=
  { bareAttempt with deviceFingerprint := some device, timestamp := ⟨seconds, 0⟩ }

def returningJobs : List (Instant × LearningJob) := [
  (⟨0, 0⟩, .outcome (attemptFrom "phone" 0) true),
  (⟨10, 0⟩, .outcome (attemptFrom "laptop" 10) true),
  (⟨20, 0⟩, .feedback (attemptFrom "tablet" 20) { bareFeedback .falsePositive with confidence := 1.0 }),
  (⟨30, 0⟩, .outcome (attemptFrom "console" 30) false),
  (⟨40, 0⟩, .outcome (attemptFrom "phone" 40) true)]

/-- With room for two devices, the one that comes back is the newer of them. -/
theorem habits_of_returning_device :
    ∃ p, profileAfter { maxKnownDevices := 2, maxLoginHistory := 0 } constantEmbedder returningJobs () "" =
        .ok (some p) ∧
      p.knownDevices = ["tablet", "phone"] ∧ p.recentLogins = [] ∧ p.hourHistogram.toList.head? = some 4 := by
  obtain ⟨found, hfound, hnone, hsome⟩ := habits_of_lessons
    { maxKnownDevices := 2, maxLoginHistory := 0 } constantEmbedder returningJobs () (by decide +kernel) ""
  cases found with
  | none =>
    exact absurd (hnone.mp rfl) (by decide +kernel)
  | some p =>
    have hhabits := (hsome p rfl).1
    have hhours := congrArg (fun h => h.hours.toList.head?) hhabits
    refine ⟨p, hfound, (congrArg Habits.devices hhabits).trans ?_,
      (congrArg Habits.logins hhabits).trans ?_, hhours.trans ?_⟩ <;> decide +kernel

end LoginRisk.Learning
