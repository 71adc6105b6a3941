import LoginRisk.Attempt.Basic
import LoginRisk.Findings.Basic
import LoginRisk.Pipeline.Task
import LoginRisk.Profile.Country
import LoginRisk.Profile.Store
import LoginRisk.Settings.Basic
import LoginRisk.Window.Store

/-!
The anomaly stage: how far an attempt departs from the user's history, and from what is common where
there is no history.
-/

namespace LoginRisk

structure AnomalyState where
  ipAttempts : WindowStore
  userAttempts : WindowStore

def AnomalyState.initial (s : AnomalySettings) : AnomalyState :=
  ⟨.empty s.frequencyWindowSeconds, .empty s.frequencyWindowSeconds⟩

namespace Anomaly

def outcomeDays : Int := 30

/-- How many successful logins it takes before the hours of a profile count. -/
def timeBaseline : Nat := 3

def isNight (s : AnomalySettings) (hour : Nat) : Bool :=
  hour < s.nightEndHour || s.nightStartHour < hour

def isNear (a b : Fin 24) : Bool :=
  let gap := ((a.val : Int) - b.val) % 24
  gap ≤ 1 || 23 ≤ gap

def clockDeviation (s : AnomalySettings) (t : Instant) : Float :=
  (if isNight s t.hour.val then 0.3 else 0.0) + (if t.weekday.isWeekend then 0.1 else 0.0)

/-- How unusual the time is for the user, or in general when the user has logged in too rarely. -/
def timeDeviation (s : AnomalySettings) (t : Instant) (p : Option Profile) : Float :=
  match p.filter fun p => timeBaseline ≤ p.successfulLogins with
  | some p => if p.typicalHours.any (isNear t.hour) then 0.0 else 0.6
  | none => clockDeviation s t

def locationDeviation (s : AnomalySettings) (place : Option Place) (p : Option Profile) : Float :=
  match place with
  | none => 0.1
  | some place =>
    if place.isUsual then 0.0
    else
      match p.filter fun p => !p.knownLocations.isEmpty with
      | none => s.unknownLocationScore
      | some p =>
        if p.knowsLocation place.key then 0.0
        else if p.knowsCountry place.country then s.unknownLocationScore * 0.5
        else s.newCountryScore

def isProgram (userAgent : String) : Bool :=
  let agent := Text.toLower userAgent
  Text.trim agent = "" || ["curl", "python", "bot"].any (Text.contains agent)

/-- What the device and the way to it add to the score, in the order of addition. -/
def deviceParts (a : Attempt) (p : Option Profile) : List Float :=
  let part (condition : Bool) (x : Float) : List Float := if condition then [x] else []
  part a.isTorExit 0.6 ++ part a.isVpn 0.3 ++
  part (Attempt.nonEmpty a.deviceFingerprint).isNone 0.1 ++
  match p with
  | some p =>
    part (!p.knownDevices.isEmpty && !p.knowsDevice a.deviceKey) 0.2 ++
    part (!p.knownUserAgents.isEmpty && !p.knowsUserAgent a.userAgent) 0.2
  | none => part (isProgram a.userAgent) 0.2

def deviceDeviation (a : Attempt) (p : Option Profile) : Float :=
  clampUnit ((deviceParts a p).foldl (· + ·) 0.0)

def share (n : Nat) (whole : Float) : Float :=
  let x := Float.ofNat n / whole
  if 1.0 < x then 1.0 else x

def frequencyAnomaly (s : AnomalySettings) (ipAttempts userAttempts failures : Nat) : Float :=
  let byIp :=
    if s.ipAttemptThreshold < ipAttempts then
      0.0 + share (ipAttempts - s.ipAttemptThreshold) 20.0 * 0.6 else 0.0
  let byUser :=
    if s.userAttemptThreshold < userAttempts then
      byIp + share (userAttempts - s.userAttemptThreshold) 10.0 * 0.4 else byIp
  clampUnit (if 0 < failures then byUser + share failures 10.0 * 0.3 else byUser)

structure History where
  successRate : Float
  failurePattern : List (String × Nat)
  samples : Nat
  bias : Float

def history (t : Instant) : Option Profile → Except TimeOverflow History
  | none => .ok ⟨1.0, [], 0, 0.0⟩
  | some p => (p.outcomesSince t outcomeDays).map fun outcomes =>
    ⟨Profile.successRate outcomes, Profile.failurePattern outcomes, outcomes.length,
      p.calibrationBias⟩

def findings (s : AnomalySettings) (a : Attempt) (p : Option Profile) (ipAttempts userAttempts : Nat)
    (h : History) : BehaviorFindings :=
  let time := clampUnit (timeDeviation s a.timestamp p)
  let location := clampUnit (locationDeviation s a.place p)
  let device := deviceDeviation a p
  { isUsualTime := time < 0.3
    timeDeviation := time
    isUsualLocation := location < 0.3
    locationDeviation := location
    isUsualDevice := device < 0.3
    deviceDeviation := device
    frequencyAnomaly := frequencyAnomaly s ipAttempts userAttempts a.previousFailures
    sessionAnomaly := 0.0
    successRate := h.successRate
    failurePattern := h.failurePattern
    historySamples := h.samples
    calibrationBias := h.bias
    usedFallback := false }

/-- The anomaly stage. The attempt is recorded once the profile has been loaded. -/
def detect (settings : AnomalySettings) (profiles : ProfileStore) (a : Attempt) (s : AnomalyState) :
    AnomalyState × Ending BehaviorFindings :=
  let key := a.profileKey
  let ip := a.clientAddress.text
  match profiles.load key with
  | .error e => (s, .failure e.message)
  | .ok profile =>
    let (ipAttempts, byIp) := s.ipAttempts.record ip a.timestamp key
    let s := { s with ipAttempts }
    match byIp with
    | .error _ => (s, .panicked)
    | .ok (ipCount, _) =>
      let (userAttempts, byUser) := s.userAttempts.record key a.timestamp ip
      let s := { s with userAttempts }
      match byUser with
      | .error _ => (s, .panicked)
      | .ok (userCount, _) =>
        (s, .ofExcept ((history a.timestamp profile).map
          (findings settings a profile ipCount userCount)))

/-- Drops attempts that no longer count at `now`, up to the first store that fails. -/
def cleanup (s : AnomalyState) (now : Instant) : AnomalyState × Except TimeOverflow Unit :=
  match s.ipAttempts.cleanup now with
  | .error e => (s, .error e)
  | .ok ipAttempts =>
    match s.userAttempts.cleanup now with
    | .error e => ({ s with ipAttempts }, .error e)
    | .ok userAttempts => (⟨ipAttempts, userAttempts⟩, .ok ())

end Anomaly

end LoginRisk
