import LoginRisk.Assoc
import LoginRisk.Window.Basic

/-!
Attempt windows by target.
-/

namespace LoginRisk

structure WindowStore where
  seconds : UInt64
  windows : List (String × AttemptWindow)

namespace WindowStore

def empty (seconds : UInt64) : WindowStore := ⟨seconds, []⟩

def window (s : WindowStore) (key : String) : Except TimeOverflow AttemptWindow :=
  match s.windows.lookup key with
  | some w => .ok w
  | none => AttemptWindow.empty? s.seconds

/-- Records an attempt and answers how many attempts and how many different labels the window of the
key holds at that time. -/
def record (s : WindowStore) (key : String) (at_ : Instant) (label : String) :
    WindowStore × Except TimeOverflow (Nat × Nat) :=
  match s.window key with
  | .error e => (s, .error e)
  | .ok w =>
    let (w, recorded) := w.record at_ label
    ({ s with windows := Assoc.put key w s.windows }, do
      recorded
      return (← w.count at_, ← w.distinct at_))

def meanInterval (s : WindowStore) (key : String) (now : Instant) :
    Except TimeOverflow (Option Float) :=
  match s.windows.lookup key with
  | some w => w.meanInterval now
  | none => .ok none

/-- Trims every window and drops the empty ones. Nothing changes when the cutoff cannot be
represented. -/
def cleanup (s : WindowStore) (now : Instant) : Except TimeOverflow WindowStore := do
  let trimmed ← s.windows.mapM fun entry => (entry.2.trim now).map fun w => (entry.1, w)
  return { s with windows := trimmed.filter fun entry => !entry.2.isEmpty }

def size (s : WindowStore) : Nat := s.windows.length

def isEmpty (s : WindowStore) : Bool := s.windows.isEmpty

end WindowStore

end LoginRisk
