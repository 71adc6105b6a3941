import LoginRisk.Assoc
import LoginRisk.Number.Decimal
import LoginRisk.Time.Instant

/-!
What is remembered about a user, and what can be read off it.
-/

namespace LoginRisk

structure LoginOutcome where
  timestamp : Instant
  success : Bool
  ip : String
  deriving DecidableEq, Repr

/-- The history of one user. Bounded lists hold the oldest entry first. Counts have 32 bits and wrap around. -/
structure Profile where
  userId : String
  hourHistogram : Vector UInt32 24
  knownCountries : List String
  knownLocations : List String
  knownDevices : List String
  knownUserAgents : List String
  recentLogins : List Instant
  outcomes : List LoginOutcome
  typicalEmbeddings : List (List Float32)
  calibrationBias : Float
  falsePositives : UInt32
  falseNegatives : UInt32
  confirmed : UInt32
  createdAt : Instant
  updatedAt : Instant

/-- Adds an item at the end and drops the oldest ones beyond `limit`. -/
def pushBounded {α : Type} (items : List α) (item : α) (limit : Nat) : List α :=
  let all := items ++ [item]
  all.drop (all.length - limit)

/-- Adds an item at the end, moving it there when it is known already, within `limit`. -/
def remember {α : Type} [BEq α] (items : List α) (item : α) (limit : Nat) : List α :=
  pushBounded (items.erase item) item limit

namespace Profile

def new (userId : String) (now : Instant) : Profile :=
  { userId, hourHistogram := Vector.replicate 24 0, knownCountries := [], knownLocations := [],
    knownDevices := [], knownUserAgents := [], recentLogins := [], outcomes := [],
    typicalEmbeddings := [], calibrationBias := 0.0, falsePositives := 0, falseNegatives := 0,
    confirmed := 0, createdAt := now, updatedAt := now }

/-- The sum of the counts, which has 32 bits as they have. -/
def successfulLogins (p : Profile) : Nat := (p.hourHistogram.toList.foldl (· + ·) 0).toNat

/-- The least number of logins at an hour that makes it typical: a twentieth of all, rounded up. -/
def typicalCount (total : Nat) : Nat :=
  let share := Float.ofNat total * 0.05
  let whole := share.toUInt64.toNat
  max (if Float.ofNat whole < share then whole + 1 else whole) 1

def typicalHours (p : Profile) : List (Fin 24) :=
  let total := p.successfulLogins
  if total = 0 then []
  else (List.finRange 24).filter fun h => typicalCount total ≤ p.hourHistogram[h].toNat

def knowsLocation (p : Profile) (key : String) : Bool := p.knownLocations.contains key

def knowsDevice (p : Profile) (key : String) : Bool := p.knownDevices.contains key

def knowsUserAgent (p : Profile) (agent : String) : Bool := p.knownUserAgents.contains agent

def daysBefore (now : Instant) (days : Int) : Except TimeOverflow Instant :=
  let seconds := days * Instant.secondsPerDay
  if Instant.isDistance seconds then now.shift (-seconds) else .error .distance

/-- The outcomes of the last days before `now`; later ones count too. -/
def outcomesSince (p : Profile) (now : Instant) (days : Int) :
    Except TimeOverflow (List LoginOutcome) :=
  (daysBefore now days).map fun start => p.outcomes.filter fun o => start ≤ o.timestamp

def successRate (outcomes : List LoginOutcome) : Float :=
  if outcomes.isEmpty then 1.0
  else Float.ofNat (outcomes.countP (·.success)) / Float.ofNat outcomes.length

def hourKey (h : Fin 24) : String := "hour_" ++ .ofList (Number.padded 2 h.val)

def failurePattern (outcomes : List LoginOutcome) : List (String × Nat) :=
  (outcomes.filter fun o => !o.success).foldl
    (fun counts o => Assoc.tally ("ip:" ++ o.ip) (Assoc.tally (hourKey o.timestamp.hour) counts)) []

end Profile

end LoginRisk
