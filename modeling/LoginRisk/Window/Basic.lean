import LoginRisk.Text.Search
import LoginRisk.Time.Instant

/-!
Attempts at one target, labelled with where they came from, within a fixed time of look-back. Time is
the time of the attempts, not of a clock.
-/

namespace LoginRisk

/-- Recorded attempts in the order of arrival. -/
structure AttemptWindow where
  /-- The length of the look-back in seconds. -/
  span : Int
  events : List (Instant × String)

namespace AttemptWindow

/-- A number of seconds as it is configured, read as a signed number of 64 bits. -/
def signedSeconds (seconds : UInt64) : Int := seconds.toInt64.toInt

/-- An empty window, unless its length cannot be represented. -/
def empty? (seconds : UInt64) : Except TimeOverflow AttemptWindow :=
  let span := signedSeconds seconds
  if Instant.isDistance span then .ok ⟨span, []⟩ else .error .distance

def cutoff (w : AttemptWindow) (now : Instant) : Except TimeOverflow Instant := now.shift (-w.span)

/-- Drops attempts from the front as long as they are before the cutoff at `now`. -/
def trim (w : AttemptWindow) (now : Instant) : Except TimeOverflow AttemptWindow := do
  let start ← w.cutoff now
  return { w with events := w.events.dropWhile fun e => e.1 < start }

/-- Adds an attempt and trims. An attempt whose cutoff cannot be represented stays recorded. -/
def record (w : AttemptWindow) (at_ : Instant) (label : String) :
    AttemptWindow × Except TimeOverflow Unit :=
  let added := { w with events := w.events ++ [(at_, label)] }
  match added.trim at_ with
  | .ok trimmed => (trimmed, .ok ())
  | .error e => (added, .error e)

/-- The attempts from the cutoff to `now`, both included. -/
def within (w : AttemptWindow) (now : Instant) : Except TimeOverflow (List (Instant × String)) := do
  let start ← w.cutoff now
  return w.events.filter fun e => start ≤ e.1 && e.1 ≤ now

def count (w : AttemptWindow) (now : Instant) : Except TimeOverflow Nat :=
  (w.within now).map List.length

def distinct (w : AttemptWindow) (now : Instant) : Except TimeOverflow Nat :=
  (w.within now).map fun es => (Text.distinct (es.map Prod.snd)).length

/-- The mean gap in seconds between some instants, measured from the first to the last in whole
milliseconds and never negative; `none` for fewer than two. -/
def meanGap : List Instant → Option Float
  | first :: second :: rest =>
    let last := (second :: rest).getLast (by simp)
    let milliseconds := (last.since first).tdiv 1000000
    let span := Float.ofInt milliseconds / 1000.0
    some ((if span < 0.0 then 0.0 else span) / Float.ofNat (rest.length + 1))
  | _ => none

def meanInterval (w : AttemptWindow) (now : Instant) : Except TimeOverflow (Option Float) :=
  (w.within now).map fun es => meanGap (es.map Prod.fst)

def isEmpty (w : AttemptWindow) : Bool := w.events.isEmpty

end AttemptWindow

end LoginRisk
