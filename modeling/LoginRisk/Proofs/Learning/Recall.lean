import LoginRisk.Proofs.Attempt.Keys
import LoginRisk.Proofs.Learning.Stored

/-!
What is recognized has been learned. The lists of a profile hold nothing but the keys of attempts that have been
learned, so that a device or a place is known only after itself, or after one that it imitates or that imitates it.
-/

namespace LoginRisk.Learning

def knownOf (s : LearningSettings) (as : List Attempt) : Known := as.foldl (Known.learn s) ⟨[], [], []⟩

lemma knownOf_concat (s : LearningSettings) (as : List Attempt) (a : Attempt) :
    knownOf s (as ++ [a]) = (knownOf s as).learn s a := by
  rw [knownOf, List.foldl_concat]
  rfl

lemma mem_of_mem_devices {s : LearningSettings} {as : List Attempt} {key : String}
    (h : key ∈ (knownOf s as).devices) : key ∈ as.map Attempt.deviceKey := by
  rw [knownOf, Known.foldl_learn] at h
  exact (mem_of_mem_rememberAll h).resolve_left List.not_mem_nil

lemma mem_of_mem_locations {s : LearningSettings} {as : List Attempt} {key : String}
    (h : key ∈ (knownOf s as).locations) : key ∈ placeKeys as := by
  rw [knownOf, Known.foldl_learn] at h
  exact (mem_of_mem_rememberAll h).resolve_left List.not_mem_nil

lemma maintains_known (s : LearningSettings) (key : String) (ws : List Work) (contents : StoreContents) :
    Maintains s key ws contents fun done p => Known.of p = knownOf s (taught s done) where
  new now := rfl
  change {done w vector stats p p'} _ _ hp h := by
    rw [Known.of_change h, hp, taught_concat]
    split
    · rw [knownOf_concat]
    · rfl
  back hp h := (Known.of_eq h.baseline.2).trans hp

variable {σ : Type} {s : LearningSettings} {embed : Embedder σ} {works : List Work} {memory : σ}
  {state : LearningState} {key : String}

/-- The lists of a user's profile are those of the attempts that have been learned under the user's key. -/
lemma known_after (hvacant : state.profiles.Vacant) {p : Profile}
    (hp : (after s embed works memory state).2.profiles.load key = .ok (some p)) :
    Known.of p = knownOf s (learned s embed key works memory state) := by
  have hkept : Maintained key state.profiles.contents _ (savedWorks s embed key works memory state) _ :=
    maintained_after hvacant (maintains_known s key works state.profiles.contents)
  rw [hkept.holds p hp, learned_eq]

section Learned

variable (past : List Attempt)

def HasDevice (a : Attempt) : Prop := ∃ b ∈ past, b.SameDevice a

/-- The fingerprint of some attempt is the key of this device, or the other way round. -/
def ImitatesDevice (a : Attempt) : Prop := ∃ b ∈ past, b.Imitates a ∨ a.Imitates b

def HasPlace (place : Place) : Prop := ∃ b ∈ past, ∃ q, b.place = some q ∧ q.SamePlace place

/-- Some attempt came from a place of another shape with this key. -/
def ImitatesPlace (place : Place) : Prop := ∃ b ∈ past, ∃ q, b.place = some q ∧ q.key = place.key ∧ ¬q.SameShape place

variable {past}

lemma hasDevice_or_imitates_iff {a : Attempt} :
    HasDevice past a ∨ ImitatesDevice past a ↔ a.deviceKey ∈ past.map Attempt.deviceKey := by
  simp only [HasDevice, ImitatesDevice, List.mem_map, Attempt.deviceKey_eq_iff, and_or_left, exists_or]

lemma hasPlace_or_imitates_iff {place : Place} :
    HasPlace past place ∨ ImitatesPlace past place ↔ place.key ∈ placeKeys past := by
  have hplaces : place.key ∈ placeKeys past ↔ ∃ b ∈ past, ∃ q, b.place = some q ∧ q.key = place.key := by
    simp only [placeKeys, List.mem_filterMap, Option.map_eq_some_iff]
  rw [hplaces]
  constructor
  · rintro (⟨b, hb, q, hq, hsame⟩ | ⟨b, hb, q, hq, hkey, -⟩)
    · exact ⟨b, hb, q, hq, (Place.samePlace_iff.mp hsame).1⟩
    · exact ⟨b, hb, q, hq, hkey⟩
  · rintro ⟨b, hb, q, hq, hkey⟩
    by_cases hshape : q.SameShape place
    · exact .inl ⟨b, hb, q, hq, Place.samePlace_iff.mpr ⟨hkey, hshape⟩⟩
    · exact .inr ⟨b, hb, q, hq, hkey, hshape⟩

end Learned

/-- What an unknown device and an unknown user agent add to the score of device, where others are known. -/
def strangeParts (a : Attempt) (p : Profile) : List Float :=
  (if p.knownDevices.isEmpty then [] else [0.2]) ++
    if p.knownUserAgents.isEmpty || p.knowsUserAgent a.userAgent then [] else [0.2]

lemma deviceParts_of_unknown {a : Attempt} {p : Profile} (h : p.knowsDevice a.deviceKey = false) :
    Anomaly.deviceParts a (some p) = Anomaly.wayParts a ++ strangeParts a p := by
  cases hdevices : p.knownDevices.isEmpty <;> cases hagents : p.knownUserAgents.isEmpty <;>
    cases hagent : p.knowsUserAgent a.userAgent <;>
    simp [Anomaly.deviceParts, Anomaly.wayParts, strangeParts, h, hdevices, hagents, hagent]

/-- When two attempts share a key of device and two places their key, and what the anomaly stage takes for known
after any works from a store without profiles on: a device or a place that has been learned, or one that cannot be
told from it. Any other is scored as unknown. -/
theorem known_only_if_learned (s : LearningSettings) (embed : Embedder σ) (works : List Work) (memory : σ)
    (state : LearningState) (hvacant : state.profiles.Vacant) :
    (∀ a b : Attempt, a.deviceKey = b.deviceKey ↔ a.SameDevice b ∨ a.Imitates b ∨ b.Imitates a) ∧
    (∀ p q : Place, p.SamePlace q ↔ p.key = q.key ∧ p.SameShape q) ∧
    let store := (after s embed works memory state).2.profiles
    ∀ (a : Attempt) (p : Profile), store.load a.profileKey = .ok (some p) →
      let past := learned s embed a.profileKey works memory state
      (p.knowsDevice a.deviceKey = true → HasDevice past a ∨ ImitatesDevice past a) ∧
      (∀ place, p.knowsLocation place.key = true → HasPlace past place ∨ ImitatesPlace past place) ∧
      ∀ {settings m r}, (Anomaly.detect settings store a m).2 = .value r →
        (¬HasDevice past a → ¬ImitatesDevice past a →
          r.deviceDeviation = clampUnit ((Anomaly.wayParts a ++ strangeParts a p).foldl (· + ·) 0.0)) ∧
        ∀ place, a.place = some place → ¬HasPlace past place → ¬ImitatesPlace past place →
          r.locationDeviation = clampUnit (
            if place.isUsual then 0.0
            else if p.knownLocations.isEmpty then settings.unknownLocationScore
            else if p.knowsCountry place.country then settings.unknownLocationScore * 0.5
            else settings.newCountryScore) := by
  refine ⟨fun _ _ => Attempt.deviceKey_eq_iff, fun _ _ => Place.samePlace_iff, ?_⟩
  intro store a p hp past
  have hknown : Known.of p = knownOf s past := known_after hvacant hp
  have hdevice (h : p.knowsDevice a.deviceKey = true) : HasDevice past a ∨ ImitatesDevice past a := by
    have hmem : a.deviceKey ∈ (Known.of p).devices := List.contains_iff_mem.mp h
    exact hasDevice_or_imitates_iff.mpr (mem_of_mem_devices (hknown ▸ hmem))
  have hplace (place : Place) (h : p.knowsLocation place.key = true) :
      HasPlace past place ∨ ImitatesPlace past place := by
    have hmem : place.key ∈ (Known.of p).locations := List.contains_iff_mem.mp h
    exact hasPlace_or_imitates_iff.mpr (mem_of_mem_locations (hknown ▸ hmem))
  refine ⟨hdevice, hplace, fun {settings m r} hr => ?_⟩
  obtain ⟨found, hfound, hreads⟩ := Anomaly.reads_of_detect hr
  obtain rfl : some p = found := Except.ok.inj (hp.symm.trans hfound)
  refine ⟨fun hnew hdistinct => ?_, fun place hat hnew hdistinct => ?_⟩
  · have hunknown : p.knowsDevice a.deviceKey = false :=
      Bool.eq_false_iff.mpr fun h => (hdevice h).elim hnew hdistinct
    rw [hreads.device, Anomaly.deviceDeviation, deviceParts_of_unknown hunknown]
  · have hunknown : p.knowsLocation place.key = false :=
      Bool.eq_false_iff.mpr fun h => (hplace place h).elim hnew hdistinct
    rw [hreads.location, hat, Anomaly.locationDeviation_some, hunknown, if_neg Bool.false_ne_true]

def storeAfterLogin (a : Attempt) : ProfileStore :=
  (after {} constantEmbedder [⟨⟨0, 0⟩, .outcome a true, false⟩] () { profiles := .memory }).2.profiles

def learnedFromLogin (a : Attempt) : List Attempt :=
  learned {} constantEmbedder "" [⟨⟨0, 0⟩, .outcome a true, false⟩] () { profiles := .memory }

def reportedScores : Ending BehaviorFindings → Option (Float × Float)
  | .value r => some (r.deviceDeviation, r.locationDeviation)
  | _ => none

lemma exists_of_reportedScores {ending : Ending BehaviorFindings} {x y : Float}
    (h : reportedScores ending = some (x, y)) :
    ∃ r, ending = .value r ∧ r.deviceDeviation = x ∧ r.locationDeviation = y := by
  cases ending with
  | value r =>
    cases h
    exact ⟨r, rfl, rfl, rfl⟩
  | failure message => cases h
  | panicked => cases h

lemma exists_of_isSome {x : Except StoreError (Option Profile)} (h : x.toOption.join.isSome = true) :
    ∃ p, x = .ok (some p) := by
  cases x with
  | error e => cases h
  | ok found =>
    obtain ⟨p, rfl⟩ := Option.isSome_iff_exists.mp h
    exact ⟨p, rfl⟩

/-- After a login with a phone, one with a laptop in another country comes from an unknown device and place. -/
theorem laptop_after_phone : ∃ r,
    (Anomaly.detect {} (storeAfterLogin (loginFrom "phone" "nl" false)) (loginFrom "laptop" "fr" false)
      (.initial {})).2 = .value r ∧
    r.deviceDeviation = 0.2 ∧ r.locationDeviation ≠ 0.0 := by
  obtain ⟨p, hload⟩ := exists_of_isSome (x := (storeAfterLogin (loginFrom "phone" "nl" false)).load "")
    (by decide +kernel)
  have hlists : Known.of p = knownOf {} (learnedFromLogin (loginFrom "phone" "nl" false)) :=
    known_after ProfileStore.vacant_memory hload
  obtain ⟨r, hr⟩ : ∃ r, (Anomaly.detect {} (storeAfterLogin (loginFrom "phone" "nl" false))
      (loginFrom "laptop" "fr" false) (.initial {})).2 = .value r :=
    Anomaly.exists_detect hload ⟨⟨_, rfl⟩, ⟨_, rfl⟩, ⟨_, rfl⟩⟩
  obtain ⟨-, -, hknown⟩ := known_only_if_learned {} constantEmbedder
    [⟨⟨0, 0⟩, .outcome (loginFrom "phone" "nl" false) true, false⟩] () { profiles := .memory }
    ProfileStore.vacant_memory
  obtain ⟨hdevice, hlocation⟩ := (hknown (loginFrom "laptop" "fr" false) p hload).2.2 hr
  have hdevices : (loginFrom "laptop" "fr" false).deviceKey ∉
      (learnedFromLogin (loginFrom "phone" "nl" false)).map Attempt.deviceKey := by decide +kernel
  have hplaces : ∀ place, (loginFrom "laptop" "fr" false).place = some place →
      place.key ∉ placeKeys (learnedFromLogin (loginFrom "phone" "nl" false)) := by
    rintro place ⟨⟩
    decide +kernel
  obtain ⟨hnewDevice, hotherDevice⟩ := not_or.mp (mt hasDevice_or_imitates_iff.mp hdevices)
  obtain ⟨hnewPlace, hotherPlace⟩ := not_or.mp (mt hasPlace_or_imitates_iff.mp (hplaces _ rfl))
  refine ⟨r, hr, (hdevice hnewDevice hotherDevice).trans ?_, ?_⟩
  · have hknownDevices : p.knownDevices = ["phone"] := (congrArg Known.devices hlists).trans (by decide +kernel)
    have hknownAgents : p.knownUserAgents = [""] := (congrArg Known.userAgents hlists).trans (by decide +kernel)
    rw [strangeParts, Profile.knowsUserAgent, hknownDevices, hknownAgents]
    decide +kernel
  · rw [hlocation _ rfl hnewPlace hotherPlace, if_neg (by decide)]
    split_ifs <;> decide +kernel

/-- A user agent that has logged in makes a fingerprint known that reads like its key, and a country without region
and city one with the placeholder for them. -/
theorem imitations_are_known :
    let seen : Attempt := { bareAttempt with userAgent := "Mozilla/5.0", place := some { country := "NL" } }
    let other : Attempt := { seen with
      deviceFingerprint := some "ua:Mozilla/5.0", place := some { country := "NL", region := some "-" } }
    (seen.deviceKey = other.deviceKey ∧ ¬seen.SameDevice other) ∧
    (∃ p q : Place, seen.place = some p ∧ other.place = some q ∧ p.key = q.key ∧ ¬p.SamePlace q) ∧
    ¬HasDevice (learnedFromLogin seen) other ∧
    (∀ place, other.place = some place → ¬HasPlace (learnedFromLogin seen) place) ∧
    ∃ r, (Anomaly.detect {} (storeAfterLogin seen) other (.initial {})).2 = .value r ∧
      r.deviceDeviation = 0.0 ∧ r.locationDeviation = 0.0 := by
  intro seen other
  refine ⟨⟨by decide +kernel, fun h => ?_⟩, ⟨_, _, rfl, rfl, by decide +kernel, fun h => ?_⟩, ?_, ?_,
    exists_of_reportedScores (by decide +kernel)⟩
  · exact absurd h.fingerprint (by decide +kernel)
  · exact absurd h.region (by decide)
  · have hnone : ∀ b ∈ learnedFromLogin seen, Attempt.nonEmpty b.deviceFingerprint = none := by decide +kernel
    rintro ⟨b, hb, hsame⟩
    exact absurd ((hnone b hb).symm.trans hsame.fingerprint) (by decide +kernel)
  · have hnone : ∀ b ∈ learnedFromLogin seen, b.place.bind Place.region = none := by decide +kernel
    rintro place hplace ⟨b, hb, q, hq, hsame⟩
    cases hplace
    have hregion := hnone b hb
    rw [hq, Option.bind_some, hsame.region] at hregion
    cases hregion

end LoginRisk.Learning
