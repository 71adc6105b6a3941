import LoginRisk.Proofs.Anomaly.Detect
import LoginRisk.Proofs.Learning.Baseline
import LoginRisk.Proofs.Learning.Saved

/-!
What has been learned is recognized. The anomaly stage looks a user up under the key under which the learning
engine has saved the profile, and it compares the same keys of devices and places that the engine has put into
the lists of the profile. A login that succeeded stays in these lists while fewer others than they have room for
are learned.
-/

namespace LoginRisk.Learning

structure Known where
  locations : List String
  devices : List String
  userAgents : List String

namespace Known

def of (p : Profile) : Known := ⟨p.knownLocations, p.knownDevices, p.knownUserAgents⟩

def learn (s : LearningSettings) (k : Known) (a : Attempt) : Known where
  locations := a.place.elim k.locations fun place => remember k.locations place.key s.maxKnownLocations
  devices := remember k.devices a.deviceKey s.maxKnownDevices
  userAgents := remember k.userAgents a.userAgent s.maxKnownDevices

structure Nodup (k : Known) : Prop where
  locations : k.locations.Nodup
  devices : k.devices.Nodup
  userAgents : k.userAgents.Nodup

end Known

def placeKeys (as : List Attempt) : List String := as.filterMap fun a => a.place.map Place.key

/-- There is room in the lists for an attempt and all that some later ones add. -/
structure RoomFor (s : LearningSettings) (c : Attempt) (later : List Attempt) : Prop where
  devices : ((later.map Attempt.deviceKey).filter (· ≠ c.deviceKey)).toFinset.card < s.maxKnownDevices
  userAgents : ((later.map Attempt.userAgent).filter (· ≠ c.userAgent)).toFinset.card < s.maxKnownDevices
  locations : ∀ place, c.place = some place →
    ((placeKeys later).filter (· ≠ place.key)).toFinset.card < s.maxKnownLocations

section Lists

variable {s : LearningSettings} {c : Attempt}

lemma Known.of_eq {p q : Profile} (h : q.baseline = p.baseline) : Known.of q = Known.of p :=
  congrArg (fun b : Profile.Baseline => Known.mk b.locations b.devices b.userAgents) h

lemma Known.of_change {now : Instant} {job : LearningJob} {vector : Option (List Float32)}
    {stats : LearningStats} {p p' : Profile} (h : (change s now job vector stats p).2 = .ok p') :
    Known.of p' = if teaches s job then (Known.of p).learn s job.attempt else Known.of p := by
  have hhabits := congrArg (fun h : Habits => Known.mk h.locations h.devices h.userAgents) (habits_change h)
  refine hhabits.trans ?_
  split <;> rfl

lemma Known.foldl_learn (k : Known) (as : List Attempt) : as.foldl (Known.learn s) k =
    ⟨rememberAll k.locations (placeKeys as) s.maxKnownLocations,
      rememberAll k.devices (as.map Attempt.deviceKey) s.maxKnownDevices,
      rememberAll k.userAgents (as.map Attempt.userAgent) s.maxKnownDevices⟩ := by
  induction as generalizing k with
  | nil => rfl
  | cons a as ih =>
    rw [List.foldl_cons, ih]
    unfold placeKeys Known.learn
    cases hplace : a.place <;> simp [hplace, rememberAll]

lemma Known.recognizes_learn (hdevices : 1 ≤ s.maxKnownDevices) (hlocations : 1 ≤ s.maxKnownLocations) {k : Known}
    {p : Profile} (hp : Known.of p = k.learn s c) : Anomaly.Recognizes p c := by
  refine ⟨?_, ?_, fun place hplace => ?_⟩
  · rw [show p.knownDevices = _ from congrArg Known.devices hp]
    exact mem_remember _ _ hdevices
  · rw [show p.knownUserAgents = _ from congrArg Known.userAgents hp]
    exact mem_remember _ _ hdevices
  · rw [show p.knownLocations = _ from congrArg Known.locations hp, Known.learn, hplace]
    exact mem_remember _ _ hlocations

/-- A login is still recognized after others while there is room for it. -/
lemma Known.recognizes_foldl {k : Known} (hnodup : k.Nodup) {later : List Attempt} (hroom : RoomFor s c later)
    {p : Profile} (hp : Known.of p = later.foldl (Known.learn s) (k.learn s c)) : Anomaly.Recognizes p c := by
  rw [← List.foldl_cons, Known.foldl_learn] at hp
  have hfilter {items : List String} {item : String} :
      (item :: items).filter (· ≠ item) = items.filter (· ≠ item) := by simp
  refine ⟨?_, ?_, fun place hplace => ?_⟩
  · rw [show p.knownDevices = _ from congrArg Known.devices hp]
    refine mem_rememberAll hnodup.devices List.mem_cons_self ?_
    rw [hfilter]
    exact hroom.devices
  · rw [show p.knownUserAgents = _ from congrArg Known.userAgents hp]
    refine mem_rememberAll hnodup.userAgents List.mem_cons_self ?_
    rw [hfilter]
    exact hroom.userAgents
  · have hkeys : placeKeys (c :: later) = place.key :: placeKeys later := by
      simp [placeKeys, hplace]
    rw [show p.knownLocations = _ from congrArg Known.locations hp, hkeys]
    refine mem_rememberAll hnodup.locations List.mem_cons_self ?_
    rw [hfilter]
    exact hroom.locations place hplace

end Lists

structure Work where
  now : Instant
  job : LearningJob
  queued : Bool

section Work

variable {σ : Type} (s : LearningSettings) (embed : Embedder σ)

def Work.run (w : Work) (memory : σ) (state : LearningState) : JobRun σ :=
  if w.queued then handle s embed w.now w.job memory state else perform s embed w.now w.job memory state

def Work.saves (w : Work) (memory : σ) (state : LearningState) : Bool :=
  (!w.queued || s.enabled) && (perform s embed w.now w.job memory state).ending.isOk

def after : List Work → σ → LearningState → σ × LearningState
  | [], memory, state => (memory, state)
  | w :: ws, memory, state =>
    let run := w.run s embed memory state
    after ws run.memory run.state

/-- The attempts under a key that are learned by some works, one after another. -/
def learned (key : String) : List Work → σ → LearningState → List Attempt
  | [], _, _ => []
  | w :: ws, memory, state =>
    let run := w.run s embed memory state
    let rest := learned key ws run.memory run.state
    if w.saves s embed memory state && teaches s w.job && w.job.key = key then w.job.attempt :: rest else rest

lemma Work.leaves (s : LearningSettings) (embed : Embedder σ) (w : Work) (memory : σ) (state : LearningState) :
    Leaves s w.now w.job state (w.saves s embed memory state) (w.run s embed memory state).state.profiles := by
  have hperform := leaves_perform s embed w.now w.job memory state
  unfold Work.run Work.saves
  cases hqueued : w.queued with
  | false => exact hperform
  | true =>
    rw [if_pos rfl, handle_profiles]
    cases s.enabled with
    | false => exact .nothing
    | true => exact hperform

end Work

/-- The lists of a user's profile in a store, wherever it can be loaded. -/
structure Knows (store : ProfileStore) (key : String) (k : Known) : Prop where
  filed : store.Filed
  loads : store.faults.load = false
  known : ∀ found, store.load key = .ok found → ∃ p, found = some p ∧ Known.of p = k

section Knows

variable {σ : Type} {s : LearningSettings} {embed : Embedder σ} {now : Instant} {job : LearningJob}
  {state : LearningState} {store : ProfileStore} {key : String} {k : Known}

lemma Leaves.knows (h : Leaves s now job state true store) (hfiled : state.profiles.Filed) {known : Option Profile}
    (hload : state.profiles.load job.key = .ok known) {found : Option Profile} (hfound : store.load job.key = .ok found) :
    ∃ q, found = some q ∧ Known.of q =
      if teaches s job then (Known.of (known.getD (.new job.key now))).learn s job.attempt
      else Known.of (known.getD (.new job.key now)) := by
  cases h with
  | saved load change save =>
    rw [hload] at load
    cases load
    rw [← userId_of_change hfiled hload change] at hfound
    obtain ⟨q, hq, -, hbaseline⟩ := ProfileStore.load_save save hfound
    exact ⟨q, hq, (Known.of_eq hbaseline).trans (Known.of_change change)⟩

/-- A job adds to what is known of its own user, if it teaches something and is saved; other jobs leave it. -/
lemma Knows.step (h : Knows state.profiles key k) {saves : Bool} (hleaves : Leaves s now job state saves store) :
    Knows store key (if saves && teaches s job && job.key = key then k.learn s job.attempt else k) := by
  refine ⟨hleaves.filed h.filed, hleaves.faults ▸ h.loads, fun found hfound => ?_⟩
  cases saves with
  | false =>
    cases hleaves
    exact h.known found hfound
  | true =>
    by_cases hkey : job.key = key
    · subst hkey
      obtain ⟨known, hload⟩ := hleaves.exists_load
      obtain ⟨q, hq, hknown⟩ := hleaves.knows h.filed hload hfound
      obtain ⟨p, rfl, hp⟩ := h.known known hload
      refine ⟨q, hq, ?_⟩
      rw [Option.getD_some, hp] at hknown
      simpa using hknown
    · rw [hleaves.load_of_ne h.filed (Ne.symm hkey)] at hfound
      simpa [hkey] using h.known found hfound

/-- What is known after some works is what they have taught, on top of what was known before. -/
lemma Knows.after (ws : List Work) (memory : σ) (h : Knows state.profiles key k) :
    Knows (Learning.after s embed ws memory state).2.profiles key
      ((learned s embed key ws memory state).foldl (Known.learn s) k) := by
  induction ws generalizing memory state k with
  | nil => exact h
  | cons w ws ih =>
    have hnext := ih (w.run s embed memory state).memory (h.step (w.leaves s embed memory state))
    rw [Learning.after, learned]
    split at hnext
    · rename_i hlearned
      rwa [if_pos hlearned]
    · rename_i hlearned
      rwa [if_neg hlearned]

end Knows

structure Alike (a b : Attempt) : Prop where
  profile : a.profileKey = b.profileKey
  device : a.deviceKey = b.deviceKey
  userAgent : a.userAgent = b.userAgent
  place : a.place.map Place.key = b.place.map Place.key

/-- The anomaly stage finds an attempt and all that are alike familiar. It does report on them, unless a time is
out of range or their row of a table cannot be read. -/
structure Recognized (store : ProfileStore) (c : Attempt) : Prop where
  finds : ∀ {a settings m r}, Alike a c → (Anomaly.detect settings store a m).2 = .value r →
    Anomaly.FindsFamiliar a r
  reports : ∀ {a m}, Alike a c → Anomaly.LooksBack m a → ∀ settings,
    (∃ r, (Anomaly.detect settings store a m).2 = .value r) ∨
      ∃ rows e, store.contents = .table rows ∧ store.load c.profileKey = .error e

section Recognized

variable {s : LearningSettings} {store : ProfileStore} {c : Attempt} {k : Known}

lemma Alike.recognizes {a : Attempt} (h : Alike a c) {p : Profile} (hp : Anomaly.Recognizes p c) :
    Anomaly.Recognizes p a := by
  refine ⟨h.device ▸ hp.device, h.userAgent ▸ hp.userAgent, fun place hplace => ?_⟩
  have hkey : c.place.map Place.key = some place.key := by rw [← h.place, hplace, Option.map_some]
  obtain ⟨place', hplace', hsame⟩ := Option.map_eq_some_iff.mp hkey
  exact hsame ▸ hp.place place' hplace'

lemma Knows.recognized (h : Knows store c.profileKey k) (hk : ∀ p, Known.of p = k → Anomaly.Recognizes p c) :
    Recognized store c := by
  refine ⟨fun {a settings m r} ha hr => ?_, fun {a m} ha hm settings => ?_⟩
  · obtain ⟨found, hload, hreads⟩ := Anomaly.reads_of_detect hr
    obtain ⟨p, rfl, hp⟩ := h.known found (ha.profile ▸ hload)
    exact (ha.recognizes (hk p hp)).findsFamiliar hreads
  · exact ha.profile ▸ Anomaly.exists_detect_or_unreadable h.loads hm settings

end Recognized

variable {σ : Type}

/-- An attempt that is learned as a success is recognized from then on: at once whatever the profile held, and, if
the lists of the profile held no entry twice, for as long as they have room for it among what is learned later. -/
theorem recognized_of_success {s : LearningSettings} (embed : Embedder σ) (now : Instant) {c : Attempt}
    (memory : σ) (state : LearningState) (hdevices : 1 ≤ s.maxKnownDevices) (hlocations : 1 ≤ s.maxKnownLocations)
    (hfiled : state.profiles.Filed)
    (hok : (perform s embed now (.outcome c true) memory state).ending = .ok ()) :
    let run := perform s embed now (.outcome c true) memory state
    Recognized run.state.profiles c ∧
      ((∀ p, state.profiles.load c.profileKey = .ok (some p) → (Known.of p).Nodup) →
        ∀ works, RoomFor s c (learned s embed c.profileKey works run.memory run.state) →
          Recognized (after s embed works run.memory run.state).2.profiles c) := by
  intro run
  have hleaves : Leaves s now (.outcome c true) state true run.state.profiles := leaves_of_ok hok
  obtain ⟨known, hload⟩ := hleaves.exists_load
  have hknows : Knows run.state.profiles c.profileKey
      ((Known.of (known.getD (.new c.profileKey now))).learn s c) :=
    ⟨hleaves.filed hfiled, hleaves.faults ▸ ProfileStore.faults_of_load hload, fun found hfound =>
      hleaves.knows hfiled hload hfound⟩
  refine ⟨hknows.recognized fun p hp => Known.recognizes_learn hdevices hlocations hp, fun hnodup works hroom => ?_⟩
  have hnodup : (Known.of (known.getD (.new c.profileKey now))).Nodup := by
    cases known with
    | none => exact ⟨List.nodup_nil, List.nodup_nil, List.nodup_nil⟩
    | some p => exact hnodup p hload
  exact (hknows.after works run.memory).recognized fun p hp => Known.recognizes_foldl hnodup hroom hp

def loginFrom (device country : String) (isTorExit : Bool) : Attempt :=
  { attemptFrom device 0 with place := some { country, city := some "Utrecht" }, isTorExit }

/-- One other device is learned, at home and abroad, and a third one fails to log in. -/
def otherWorks : List Work := [
  ⟨⟨10, 0⟩, .outcome (loginFrom "laptop" "nl" false) true, true⟩,
  ⟨⟨20, 0⟩, .outcome (loginFrom "laptop" "fr" false) true, false⟩,
  ⟨⟨30, 0⟩, .outcome (loginFrom "console" "nl" false) false, true⟩]

/-- With room for two devices the first is recognized after another one, also when it comes through Tor. -/
theorem first_device_recognized :
    ∃ r, (Anomaly.detect {} (after { maxKnownDevices := 2 } constantEmbedder otherWorks ()
        (perform { maxKnownDevices := 2 } constantEmbedder ⟨0, 0⟩ (.outcome (loginFrom "phone" "nl" false) true) ()
          { profiles := .memory }).state).2.profiles (loginFrom "phone" "NL" true) (.initial {})).2 = .value r ∧
      r.locationDeviation = 0.0 ∧ r.deviceDeviation = 0.6 := by
  have hfiled : ProfileStore.memory.Filed := fun key p h => by cases h
  have hempty (p : Profile) (h : ProfileStore.memory.load "" = .ok (some p)) : (Known.of p).Nodup := by cases h
  have hrecognized := (recognized_of_success constantEmbedder ⟨0, 0⟩ (c := loginFrom "phone" "nl" false) ()
    { profiles := .memory } (s := { maxKnownDevices := 2 }) (by decide) (by decide) hfiled
    (by decide +kernel)).2 hempty otherWorks ⟨by decide +kernel, by decide +kernel, fun place hplace => by
      cases hplace
      decide +kernel⟩
  have halike : Alike (loginFrom "phone" "NL" true) (loginFrom "phone" "nl" false) :=
    ⟨rfl, rfl, rfl, by decide +kernel⟩
  have hlooks : Anomaly.LooksBack (.initial {}) (loginFrom "phone" "NL" true) := ⟨⟨_, rfl⟩, ⟨_, rfl⟩, ⟨_, rfl⟩⟩
  obtain ⟨r, hr⟩ | ⟨rows, e, -, herror⟩ := hrecognized.reports halike hlooks {}
  · have hfinds := hrecognized.finds halike hr
    exact ⟨r, hr, hfinds.location rfl, hfinds.device.trans (by decide +kernel)⟩
  · have hfails := congrArg Except.isOk herror
    exact absurd (hfails.trans rfl : _ = false) (by decide +kernel)

def twice : Profile := { Profile.new "" ⟨0, 0⟩ with knownDevices := ["x", "x"] }

def misfiled : ProfileStore := ⟨.memory [("", { Profile.new "other" ⟨0, 0⟩ with knownDevices := ["x"] })], {}⟩

def loginsFrom (devices : List String) : List Work :=
  devices.map fun device => ⟨⟨0, 0⟩, .outcome (attemptFrom device 0) true, false⟩

def firstLogin (state : LearningState) : JobRun Unit :=
  perform { maxKnownDevices := 3 } constantEmbedder ⟨0, 0⟩ (.outcome (attemptFrom "k" 0) true) () state

lemma exists_unfamiliar {ending : Ending BehaviorFindings} (h : Anomaly.reportedDevice ending = some 0.2) :
    ∃ r, ending = .value r ∧ ¬Anomaly.FindsFamiliar (attemptFrom "k" 0) r := by
  obtain ⟨r, hr, hscore⟩ := Anomaly.exists_of_reportedDevice h
  exact ⟨r, hr, fun hfinds => absurd (hscore.symm.trans hfinds.device) (by decide +kernel)⟩

/-- Of a device that stands twice one entry outlives the other, so that two other devices can fill a list with
room for three. And what is learned of a profile under another user's key is never looked up. -/
theorem repeated_device_evicts :
    ((onlyProfile "" twice).profiles.Filed ∧ (firstLogin (onlyProfile "" twice)).ending = .ok () ∧
      RoomFor { maxKnownDevices := 3 } (attemptFrom "k" 0) (learned { maxKnownDevices := 3 } constantEmbedder ""
        (loginsFrom ["x", "x", "y"]) () (firstLogin (onlyProfile "" twice)).state) ∧
      ∃ r, (Anomaly.detect {} (after { maxKnownDevices := 3 } constantEmbedder (loginsFrom ["x", "x", "y"]) ()
          (firstLogin (onlyProfile "" twice)).state).2.profiles (attemptFrom "k" 0) (.initial {})).2 = .value r ∧
        ¬Anomaly.FindsFamiliar (attemptFrom "k" 0) r) ∧
    (firstLogin ⟨misfiled, {}⟩).ending = .ok () ∧
      ∃ r, (Anomaly.detect {} (firstLogin ⟨misfiled, {}⟩).state.profiles (attemptFrom "k" 0) (.initial {})).2 =
          .value r ∧ ¬Anomaly.FindsFamiliar (attemptFrom "k" 0) r := by
  refine ⟨⟨fun key p h => ?_, by decide +kernel, ⟨by decide +kernel, by decide +kernel, fun place hplace => ?_⟩,
    exists_unfamiliar (by decide +kernel)⟩, by decide +kernel, exists_unfamiliar (by decide +kernel)⟩
  · have hentry := Assoc.mem_of_lookup (Except.ok.inj h)
    rw [List.mem_singleton, Prod.mk.injEq] at hentry
    rw [hentry.1, hentry.2]
    rfl
  · cases hplace

end LoginRisk.Learning
