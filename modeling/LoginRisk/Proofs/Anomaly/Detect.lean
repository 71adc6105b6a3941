import LoginRisk.Anomaly.Detect
import LoginRisk.Proofs.Except
import LoginRisk.Proofs.Profile.ReadBack

/-!
How the anomaly stage ends. It fails only with the store, it panics only over a look-back that leaves the
calendar, and otherwise its scores of time, place and device are read off the profile alone: the attempts that
it remembers do not matter to them.
-/

namespace LoginRisk.Anomaly

structure LooksBack (m : AnomalyState) (a : Attempt) : Prop where
  byAddress : ∃ counts, (m.ipAttempts.record a.clientAddress.text a.timestamp a.profileKey).2 = .ok counts
  byUser : ∃ counts, (m.userAttempts.record a.profileKey a.timestamp a.clientAddress.text).2 = .ok counts
  outcomes : ∃ start, Profile.daysBefore a.timestamp outcomeDays = .ok start

variable {settings : AnomalySettings} {store : ProfileStore} {a : Attempt} {m : AnomalyState}
  {found : Option Profile}

structure Reads (settings : AnomalySettings) (a : Attempt) (found : Option Profile) (r : BehaviorFindings) : Prop where
  time : r.timeDeviation = clampUnit (timeDeviation settings a.timestamp found)
  location : r.locationDeviation = clampUnit (locationDeviation settings a.place found)
  device : r.deviceDeviation = deviceDeviation a found

lemma findings_of_detect {r : BehaviorFindings} (h : (detect settings store a m).2 = .value r) :
    ∃ found past ipCount userCount, store.load a.profileKey = .ok found ∧ history a.timestamp found = .ok past ∧
      r = findings settings a found ipCount userCount past := by
  unfold detect at h
  dsimp only at h
  split at h
  · cases h
  · rename_i found hload
    split at h
    · cases h
    · split at h
      · cases h
      · cases hhistory : history a.timestamp found with
        | error e =>
          rw [hhistory] at h
          cases h
        | ok past =>
          rw [hhistory] at h
          cases h
          exact ⟨found, past, _, _, hload, hhistory, rfl⟩

lemma reads_of_detect {r : BehaviorFindings} (h : (detect settings store a m).2 = .value r) :
    ∃ found, store.load a.profileKey = .ok found ∧ Reads settings a found r := by
  obtain ⟨found, past, ipCount, userCount, hload, -, rfl⟩ := findings_of_detect h
  exact ⟨found, hload, rfl, rfl, rfl⟩

lemma exists_detect (hload : store.load a.profileKey = .ok found) (h : LooksBack m a) :
    ∃ r, (detect settings store a m).2 = .value r := by
  obtain ⟨⟨counts, hip⟩, ⟨counts', huser⟩, ⟨start, hstart⟩⟩ := h
  have hhistory : ∃ past, history a.timestamp found = .ok past := by
    cases found with
    | none => exact ⟨_, rfl⟩
    | some p => exact ⟨_, by rw [history, Profile.outcomesSince, hstart]; rfl⟩
  obtain ⟨past, hpast⟩ := hhistory
  unfold detect
  dsimp only
  rw [hload]
  dsimp only
  rw [hip]
  dsimp only
  rw [huser, hpast]
  exact ⟨_, rfl⟩

/-- Over a store that does not fail, a stage that looks back reports, unless it comes upon a row of a table that
cannot be read. -/
lemma exists_detect_or_unreadable (hfaults : store.faults.load = false) (h : LooksBack m a)
    (settings : AnomalySettings) : (∃ r, (detect settings store a m).2 = .value r) ∨
      ∃ rows e, store.contents = .table rows ∧ store.load a.profileKey = .error e := by
  cases hload : store.load a.profileKey with
  | ok found => exact .inl (exists_detect hload h)
  | error e =>
    refine .inr ?_
    cases hcontents : store.contents with
    | table rows => exact ⟨rows, e, rfl, rfl⟩
    | memory profiles =>
      rw [ProfileStore.load, hfaults, hcontents] at hload
      cases hload

lemma timeDeviation_some (t : Instant) (p : Profile) : timeDeviation settings t (some p) =
    if timeBaseline ≤ p.successfulLogins then if p.typicalHours.any (isNear t.hour) then 0.0 else 0.6
    else clockDeviation settings t := by
  by_cases h : timeBaseline ≤ p.successfulLogins <;> simp [timeDeviation, Option.filter_some, h]

lemma locationDeviation_some (place : Place) (p : Profile) : locationDeviation settings (some place) (some p) =
    if place.isUsual then 0.0
    else if p.knownLocations.isEmpty then settings.unknownLocationScore
    else if p.knowsLocation place.key then 0.0
    else if p.knowsCountry place.country then settings.unknownLocationScore * 0.5
    else settings.newCountryScore := by
  cases h : p.knownLocations.isEmpty <;> simp [locationDeviation, Option.filter_some, h]

def reportedDevice : Ending BehaviorFindings → Option Float
  | .value r => some r.deviceDeviation
  | _ => none

lemma exists_of_reportedDevice {ending : Ending BehaviorFindings} {x : Float} (h : reportedDevice ending = some x) :
    ∃ r, ending = .value r ∧ r.deviceDeviation = x := by
  cases ending with
  | value r => exact ⟨r, rfl, Option.some.inj h⟩
  | failure message => cases h
  | panicked => cases h

/-- What only an attempt itself adds to its score of device, in the order of addition: that it came through Tor
or a VPN, and that its device did not show itself. -/
def wayParts (a : Attempt) : List Float :=
  (if a.isTorExit then [0.6] else []) ++ (if a.isVpn then [0.3] else []) ++
    (if (Attempt.nonEmpty a.deviceFingerprint).isNone then [0.1] else [])

/-- An attempt that a profile recognizes by its device, its user agent and its place. -/
structure Recognizes (p : Profile) (a : Attempt) : Prop where
  device : a.deviceKey ∈ p.knownDevices
  userAgent : a.userAgent ∈ p.knownUserAgents
  place : ∀ place, a.place = some place → place.key ∈ p.knownLocations

structure FindsFamiliar (a : Attempt) (r : BehaviorFindings) : Prop where
  location : a.place.isSome = true → r.locationDeviation = 0.0
  device : r.deviceDeviation = clampUnit ((wayParts a).foldl (· + ·) 0.0)

lemma locationDeviation_of_mem {p : Profile} {place : Place} (h : place.key ∈ p.knownLocations) :
    locationDeviation settings (some place) (some p) = 0.0 := by
  have hknows : p.knowsLocation place.key = true := List.contains_iff_mem.mpr h
  have hne : p.knownLocations.isEmpty = false := List.isEmpty_eq_false_iff.mpr (List.ne_nil_of_mem h)
  simp [locationDeviation_some, hne, hknows]

lemma Recognizes.deviceParts_eq {p : Profile} (h : Recognizes p a) : deviceParts a (some p) = wayParts a := by
  have hdevice : p.knowsDevice a.deviceKey = true := List.contains_iff_mem.mpr h.device
  have hagent : p.knowsUserAgent a.userAgent = true := List.contains_iff_mem.mpr h.userAgent
  simp [deviceParts, wayParts, hdevice, hagent]

lemma Recognizes.findsFamiliar {p : Profile} (h : Recognizes p a) {r : BehaviorFindings}
    (hr : Reads settings a (some p) r) : FindsFamiliar a r := by
  refine ⟨fun hplace => ?_, ?_⟩
  · obtain ⟨place, hplace⟩ := Option.isSome_iff_exists.mp hplace
    rw [hr.location, hplace, locationDeviation_of_mem (h.place place hplace)]
    rfl
  · rw [hr.device, deviceDeviation, h.deviceParts_eq]

end LoginRisk.Anomaly
