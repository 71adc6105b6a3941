import LoginRisk.Proofs.Anomaly.Detect
import LoginRisk.Proofs.Learning.Saved
import LoginRisk.Proofs.Number.Order
import Mathlib.Data.Fintype.Basic

/-!
What a failed login does to the scores of later attempts. It changes nothing that they are read off, but where
there was no profile it makes one. The scores of time and place take a profile without successful logins for none;
the score of device does not, and no longer counts a user agent that looks like a program.
-/

namespace LoginRisk

lemma clampUnit_le_self (x : Float) : clampUnit x ≤ clampUnit x := by
  have hnumber := Number.isNaN_of_isFinite ((isUnit_iff _).mp (isUnit_clampUnit x)).1
  exact (Number.float_le_iff _ _).mpr ⟨hnumber, hnumber, le_rfl⟩

namespace Profile

def Baseline.profile (b : Baseline) : Profile :=
  { Profile.new "" ⟨0, 0⟩ with
    hourHistogram := b.hours
    knownCountries := b.countries
    knownLocations := b.locations
    knownDevices := b.devices
    knownUserAgents := b.userAgents }

def Baseline.empty : Baseline := ⟨Vector.replicate 24 0, [], [], [], []⟩

end Profile

namespace Anomaly

variable {settings : AnomalySettings} {a : Attempt}

lemma Reads.baseline {found : Option Profile} {r : BehaviorFindings} (h : Reads settings a found r) :
    Reads settings a ((found.map Profile.baseline).map Profile.Baseline.profile) r := by
  cases found with
  | none => exact h
  | some p =>
    refine ⟨h.time.trans ?_, h.location.trans ?_, h.device⟩
    · rw [timeDeviation_some, Option.map_some, Option.map_some, timeDeviation_some]
      rfl
    · rw [Option.map_some, Option.map_some]
      cases a.place with
      | none => rfl
      | some place =>
        rw [locationDeviation_some, locationDeviation_some]
        rfl

lemma Reads.le_of_same {found : Option Profile} {r r' : BehaviorFindings} (h : Reads settings a found r)
    (h' : Reads settings a found r') :
    r.timeDeviation ≤ r'.timeDeviation ∧ r.locationDeviation ≤ r'.locationDeviation ∧
      r.deviceDeviation ≤ r'.deviceDeviation := by
  rw [h.time, h'.time, h.location, h'.location, h.device, h'.device]
  exact ⟨clampUnit_le_self _, clampUnit_le_self _, clampUnit_le_self _⟩

lemma timeDeviation_empty (t : Instant) :
    timeDeviation settings t (some Profile.Baseline.empty.profile) = timeDeviation settings t none := rfl

lemma locationDeviation_empty (place : Option Place) :
    locationDeviation settings place (some Profile.Baseline.empty.profile) = locationDeviation settings place none :=
  rfl

lemma deviceParts_none (a : Attempt) :
    deviceParts a none = wayParts a ++ if isProgram a.userAgent then [0.2] else [] := rfl

lemma deviceParts_empty (a : Attempt) : deviceParts a (some Profile.Baseline.empty.profile) = wayParts a := by
  simp [deviceParts, wayParts, Profile.Baseline.empty, Profile.Baseline.profile]

/-- However an attempt came, a program's user agent adds to its score of device, also where that is cut off. -/
lemma program_adds (a : Attempt) :
    clampUnit ((wayParts a).foldl (· + ·) 0.0) < clampUnit ((wayParts a ++ [0.2]).foldl (· + ·) 0.0) := by
  have hall : ∀ tor vpn hidden : Bool,
      let parts : List Float := (if tor then [0.6] else []) ++ (if vpn then [0.3] else []) ++
        (if hidden then [0.1] else [])
      clampUnit (parts.foldl (· + ·) 0.0) < clampUnit ((parts ++ [0.2]).foldl (· + ·) 0.0) := by
    decide +kernel
  exact hall a.isTorExit a.isVpn (Attempt.nonEmpty a.deviceFingerprint).isNone

/-- An empty profile in the place of none lowers one score of one kind of attempts. -/
lemma Reads.le_of_made {r r' : BehaviorFindings} (h : Reads settings a none r)
    (h' : Reads settings a (some Profile.Baseline.empty.profile) r') :
    r.timeDeviation ≤ r'.timeDeviation ∧ r.locationDeviation ≤ r'.locationDeviation ∧
      (r.deviceDeviation ≤ r'.deviceDeviation ↔ ¬isProgram a.userAgent = true) := by
  rw [h.time, h'.time, timeDeviation_empty, h.location, h'.location, locationDeviation_empty]
  refine ⟨clampUnit_le_self _, clampUnit_le_self _, ?_⟩
  rw [h.device, h'.device, deviceDeviation, deviceDeviation, deviceParts_none, deviceParts_empty]
  by_cases hprogram : isProgram a.userAgent = true
  · rw [if_pos hprogram]
    exact iff_of_false (fun hle => Number.not_float_lt_of_le hle (program_adds a)) (not_not_intro hprogram)
  · rw [if_neg hprogram, List.append_nil]
    exact iff_of_true (clampUnit_le_self _) hprogram

end Anomaly

namespace Learning

variable {σ : Type} {s : LearningSettings} {now : Instant} {state : LearningState} {f : Attempt}

lemma Leaves.baseline_of_failure {saves : Bool} {store : ProfileStore}
    (h : Leaves s now (.outcome f false) state saves store) {before found : Option Profile}
    (hbefore : state.profiles.load f.profileKey = .ok before) (hfound : store.load f.profileKey = .ok found) :
    found.map Profile.baseline =
      (before.map Profile.baseline).or (if saves then some Profile.Baseline.empty else none) := by
  cases h with
  | nothing =>
    rw [hbefore] at hfound
    cases hfound
    simp
  | @saved known vector p _ load change save =>
    change state.profiles.load f.profileKey = _ at load
    rw [hbefore] at load
    cases load
    have hbaseline : p.baseline = (before.getD (.new f.profileKey now)).baseline := by
      obtain ⟨-, -, outcomes, rfl⟩ := applyOutcome_eq_ok (change_outcome_eq_ok change)
      rfl
    by_cases hkey : f.profileKey = p.userId
    · rw [hkey] at hfound
      obtain ⟨q, rfl, -, hq⟩ := ProfileStore.load_save save hfound
      rw [Option.map_some, hq, hbaseline]
      cases before <;> rfl
    · rw [ProfileStore.load_save_of_ne save hkey, hbefore] at hfound
      cases hfound
      cases before with
      | none => exact absurd (userId_change change).symm hkey
      | some p => rfl

end Learning

namespace Anomaly

open Learning

variable {σ : Type}

/-- After a failed login the stage reports on an attempt of the same user as before, unless a time is out of range
or the user's row of a table cannot be read. Its scores of time and place are at least what they were. So is its
score of device, except where the failed login has made the user's profile and the attempt comes from a program. -/
theorem scores_after_failure (s : LearningSettings) (embed : Embedder σ) (now : Instant) (memory : σ)
    (state : LearningState) {f c : Attempt} (hkey : c.profileKey = f.profileKey) (settings : AnomalySettings)
    {m : AnomalyState} {r : BehaviorFindings} (hr : (detect settings state.profiles c m).2 = .value r) :
    let run := perform s embed now (.outcome f false) memory state
    ∀ m', (LooksBack m' c → (∃ r', (detect settings run.state.profiles c m').2 = .value r') ∨
      ∃ rows e, run.state.profiles.contents = .table rows ∧ run.state.profiles.load c.profileKey = .error e) ∧
    ∀ r', (detect settings run.state.profiles c m').2 = .value r' →
      r.timeDeviation ≤ r'.timeDeviation ∧ r.locationDeviation ≤ r'.locationDeviation ∧
      (r.deviceDeviation ≤ r'.deviceDeviation ↔ ¬(state.profiles.load c.profileKey = .ok none ∧
        run.ending = .ok () ∧ isProgram c.userAgent = true)) := by
  intro run m'
  have hleaves := leaves_perform s embed now (.outcome f false) memory state
  obtain ⟨before, hload, hbefore⟩ := reads_of_detect hr
  have hfaults : run.state.profiles.faults.load = false := hleaves.faults ▸ ProfileStore.faults_of_load hload
  refine ⟨fun hlooks => exists_detect_or_unreadable hfaults hlooks settings, fun r' hr' => ?_⟩
  obtain ⟨found, hfound, hafter⟩ := reads_of_detect hr'
  rw [hkey] at hload hfound ⊢
  have hbefore := hbefore.baseline
  have hafter := hafter.baseline
  rw [hleaves.baseline_of_failure hload hfound] at hafter
  cases before with
  | some p =>
    obtain ⟨htime, hlocation, hdevice⟩ := hbefore.le_of_same hafter
    exact ⟨htime, hlocation, iff_of_true hdevice (by simp [hload])⟩
  | none =>
    cases hending : run.ending with
    | error e =>
      rw [hending] at hafter
      obtain ⟨htime, hlocation, hdevice⟩ := hbefore.le_of_same hafter
      exact ⟨htime, hlocation, iff_of_true hdevice (by simp)⟩
    | ok _ =>
      rw [hending] at hafter
      obtain ⟨htime, hlocation, hdevice⟩ := Reads.le_of_made hbefore hafter
      exact ⟨htime, hlocation, hdevice.trans (by simp [hload])⟩

def loginWith (userAgent : String) : Attempt :=
  { bareAttempt with userAgent, deviceFingerprint := some "fp-1" }

/-- What is left of an empty store by a failed login. -/
def failedFirst : LearningState :=
  (perform {} constantEmbedder ⟨0, 0⟩ (.outcome (loginWith "curl/8.0") false) () { profiles := .memory }).state

/-- A browser looks no less unusual after a program has failed to log in. -/
theorem browser_after_failure :
    ∃ r r', (detect {} .memory (loginWith "Firefox/126.0") (.initial {})).2 = .value r ∧
      (detect {} failedFirst.profiles (loginWith "Firefox/126.0") (.initial {})).2 = .value r' ∧
      r.timeDeviation ≤ r'.timeDeviation ∧ r.locationDeviation ≤ r'.locationDeviation ∧
      r.deviceDeviation ≤ r'.deviceDeviation := by
  have hlooks : LooksBack (.initial {}) (loginWith "Firefox/126.0") := ⟨⟨_, rfl⟩, ⟨_, rfl⟩, ⟨_, rfl⟩⟩
  obtain ⟨r, hr⟩ : ∃ r, (detect {} .memory (loginWith "Firefox/126.0") (.initial {})).2 = .value r :=
    exists_detect rfl hlooks
  obtain ⟨hreports, hscores⟩ := scores_after_failure {} constantEmbedder ⟨0, 0⟩ () { profiles := .memory }
    (f := loginWith "curl/8.0") (c := loginWith "Firefox/126.0") rfl {} hr (.initial {})
  obtain ⟨r', hr'⟩ | ⟨rows, e, hrows, -⟩ := hreports hlooks
  · obtain ⟨htime, hlocation, hdevice⟩ := hscores r' hr'
    have hbrowser : isProgram (loginWith "Firefox/126.0").userAgent = false := by decide +kernel
    exact ⟨r, r', hr, hr', htime, hlocation, hdevice.mpr (by simp [hbrowser])⟩
  · cases hrows

/-- The same program looks less unusual after it has failed to log in. -/
theorem program_after_failure :
    ∃ r r', (detect {} .memory (loginWith "curl/8.0") (.initial {})).2 = .value r ∧
      (detect {} failedFirst.profiles (loginWith "curl/8.0") (.initial {})).2 = .value r' ∧
      r'.deviceDeviation < r.deviceDeviation := by
  have hbefore : reportedDevice (detect {} .memory (loginWith "curl/8.0") (.initial {})).2 = some 0.2 := by
    decide +kernel
  have hafter : reportedDevice (detect {} failedFirst.profiles (loginWith "curl/8.0") (.initial {})).2 = some 0.0 := by
    decide +kernel
  obtain ⟨r, hr, hbefore⟩ := exists_of_reportedDevice hbefore
  obtain ⟨r', hr', hafter⟩ := exists_of_reportedDevice hafter
  refine ⟨r, r', hr, hr', ?_⟩
  rw [hbefore, hafter]
  decide

end Anomaly

end LoginRisk
