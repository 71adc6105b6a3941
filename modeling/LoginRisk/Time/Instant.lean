import LoginRisk.Time.Calendar

/-!
Instants of universal time to the nanosecond, with leap seconds, and their distances.
-/

namespace LoginRisk

/-- An instant: seconds since 1970-01-01T00:00:00Z and nanoseconds. Nanoseconds from `10 ^ 9` up
stand for the leap second that follows the given second. -/
structure Instant where
  seconds : Int
  nanos : Nat
  deriving DecidableEq, Repr

/-- An instant or a distance that lies outside what can be represented. -/
inductive TimeOverflow where
  | instant
  | distance
  deriving DecidableEq, Repr

namespace Instant

instance : Inhabited Instant := ⟨⟨0, 0⟩⟩

def secondsPerDay : Int := 86400

def le (a b : Instant) : Bool :=
  a.seconds < b.seconds || (a.seconds == b.seconds && a.nanos ≤ b.nanos)

instance : LE Instant := ⟨fun a b => a.le b = true⟩

instance (a b : Instant) : Decidable (a ≤ b) := inferInstanceAs (Decidable (a.le b = true))

def lt (a b : Instant) : Bool := !b.le a

instance : LT Instant := ⟨fun a b => a.lt b = true⟩

instance (a b : Instant) : Decidable (a < b) := inferInstanceAs (Decidable (a.lt b = true))

def day (t : Instant) : Int := t.seconds / secondsPerDay

def secondOfDay (t : Instant) : Nat := (t.seconds % secondsPerDay).toNat

theorem secondOfDay_lt (t : Instant) : t.secondOfDay < 86400 := by
  have h := Int.emod_lt_of_pos t.seconds (show 0 < secondsPerDay by decide)
  simp only [secondOfDay, secondsPerDay] at *
  omega

def hour (t : Instant) : Fin 24 :=
  ⟨t.secondOfDay / 3600, by have := t.secondOfDay_lt; omega⟩

def weekday (t : Instant) : Time.Weekday := Time.weekdayOf t.day

/-- The first second of the first year and the last second of the last year. -/
def earliest : Int := (Time.Date.mk Time.firstYear 1 1).toDays * secondsPerDay

def latest : Int := (Time.Date.mk Time.lastYear 12 31).toDays * secondsPerDay + 86399

def inRange (seconds : Int) : Bool := earliest ≤ seconds && seconds ≤ latest

/-- The longest distance in seconds, in either direction: `2 ^ 63 - 1` milliseconds. -/
def longest : Int := 9223372036854775

def isDistance (seconds : Int) : Bool := -longest ≤ seconds && seconds ≤ longest

/-- The instant a number of seconds later. A step that leaves a leap second lands as if the leap
second were the last instants of its second (going forward) or the first of the next one (going
back); a step of zero stays inside it. -/
def shift (t : Instant) (by_ : Int) : Except TimeOverflow Instant :=
  let base : Instant :=
    if by_ = 0 || t.nanos < 1000000000 then t
    else if 0 < by_ then ⟨t.seconds, t.nanos - 1000000000⟩
    else ⟨t.seconds + 1, t.nanos - 1000000000⟩
  let seconds := base.seconds + by_
  if inRange seconds then .ok ⟨seconds, base.nanos⟩ else .error .instant

/-- Nanoseconds from `b` to `a`, a leap second between the two times of day being counted. -/
def since (a b : Instant) : Int :=
  let leap : Int :=
    if b.secondOfDay < a.secondOfDay && 1000000000 ≤ b.nanos then 1
    else if a.secondOfDay < b.secondOfDay && 1000000000 ≤ a.nanos then -1
    else 0
  (a.seconds - b.seconds + leap) * 1000000000 + ((a.nanos : Int) - b.nanos)

end Instant

end LoginRisk
