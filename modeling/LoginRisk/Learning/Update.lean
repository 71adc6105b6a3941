import LoginRisk.Learning.Job
import LoginRisk.Profile.Country

/-!
How a job changes a profile: outcomes extend the history, successes also what is usual for the user,
and feedback moves the bias of the user's scores.
-/

namespace LoginRisk.Learning

def outcomeLimit : Nat := 500

/-- Adds an outcome and forgets those from before the look-back at `now`. -/
def addOutcome (s : LearningSettings) (now : Instant) (o : LoginOutcome) (p : Profile) :
    Except TimeOverflow Profile :=
  (Profile.daysBefore now s.outcomeHistoryDays).map fun start =>
    { p with outcomes := (pushBounded p.outcomes o outcomeLimit).filter fun o => start ≤ o.timestamp }

def countHour (h : Fin 24) (p : Profile) : Profile :=
  { p with hourHistogram := .ofFn fun i => p.hourHistogram.get i + if i = h then 1 else 0 }

def learnCountry (country : String) (p : Profile) : Profile :=
  if country = "" || p.knowsCountry country then p
  else { p with knownCountries := p.knownCountries ++ [Text.toUpper country] }

def learnPlace (s : LearningSettings) (place : Option Place) (p : Profile) : Profile :=
  match place with
  | none => p
  | some place =>
    let p := learnCountry place.country p
    { p with knownLocations := remember p.knownLocations place.key s.maxKnownLocations }

def learnVector (s : LearningSettings) (vector : Option (List Float32)) (p : Profile) : Profile :=
  match vector with
  | none => p
  | some v => { p with typicalEmbeddings := pushBounded p.typicalEmbeddings v s.maxTypicalEmbeddings }

def learnSuccess (s : LearningSettings) (a : Attempt) (vector : Option (List Float32)) (p : Profile) :
    Profile :=
  let p := learnPlace s a.place (countHour a.timestamp.hour p)
  learnVector s vector
    { p with
      knownDevices := remember p.knownDevices a.deviceKey s.maxKnownDevices
      knownUserAgents := remember p.knownUserAgents a.userAgent s.maxKnownDevices
      recentLogins := pushBounded p.recentLogins a.timestamp s.maxLoginHistory }

def applyOutcome (s : LearningSettings) (now : Instant) (a : Attempt) (success : Bool)
    (vector : Option (List Float32)) (p : Profile) : Except TimeOverflow Profile := do
  let p ← addOutcome s now ⟨a.timestamp, success, a.clientAddress.text⟩ p
  let p := if success then learnSuccess s a vector p else p
  return { p with updatedAt := now }

def judge (s : LearningSettings) (p : Profile) : FeedbackKind → Profile
  | .falsePositive =>
    { p with
      falsePositives := p.falsePositives + 1
      calibrationBias := p.calibrationBias - s.biasStep }
  | .falseNegative =>
    { p with
      falseNegatives := p.falseNegatives + 1
      calibrationBias := p.calibrationBias + s.biasStep }
  | .confirmed => { p with confirmed := p.confirmed + 1 }

/-- The nearest number between `-bound` and `bound`; there is none when `bound` is no number. -/
def clampBias (bound x : Float) : Option Float :=
  if -bound ≤ bound then
    let x := if x < -bound then -bound else x
    some (if bound < x then bound else x)
  else none

def boundBias (s : LearningSettings) (p : Profile) : Option Profile :=
  (clampBias s.maxUserBias.abs p.calibrationBias).map fun bias => { p with calibrationBias := bias }

/-- Counts feedback and, where it extends the baseline, enters the attempt as a success. -/
def applyFeedback (s : LearningSettings) (now : Instant) (a : Attempt) (f : Feedback)
    (vector : Option (List Float32)) (p : Profile) : Except TimeOverflow Profile :=
  let p := judge s p f.kind
  if f.extendsBaseline s then applyOutcome s now a true vector p else .ok p

/-- The changed profile, and the statistics as they stand before the profile is saved. Feedback counts
as soon as it has been entered, also when the bias then turns out to have no bounds. -/
def change (s : LearningSettings) (now : Instant) (job : LearningJob) (vector : Option (List Float32))
    (stats : LearningStats) (p : Profile) : LearningStats × Except JobError Profile :=
  match job with
  | .outcome a success =>
    (stats, (applyOutcome s now a success vector p).mapError fun _ => .panicked)
  | .feedback a f =>
    match applyFeedback s now a f vector p with
    | .error _ => (stats, .error .panicked)
    | .ok p =>
      (stats.judge f.kind,
        match boundBias s p with
        | none => .error .panicked
        | some p => .ok { p with updatedAt := now })

end LoginRisk.Learning
