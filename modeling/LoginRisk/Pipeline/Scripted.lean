import LoginRisk.Monitor.Metrics
import LoginRisk.Pipeline.Analyzers

/-!
Analyzers that follow a script. They take the place of others to show what becomes of an attempt when
an analyzer fails, panics or takes too long.
-/

namespace LoginRisk

inductive Behavior where
  | answer
  | fail (message : String)
  | panic
  | wait (ms : Nat)

/-- What a scripted analyzer does on one call after the other, and how the calls end in which it
answers. -/
structure Script (α : Type) where
  behaviors : List Behavior
  ending : Ending α

namespace Script

variable {α : Type}

/-- What is done on the call of a given number. The last behavior repeats, and without any there is an
answer. -/
def behavior (s : Script α) (n : Nat) : Behavior :=
  (s.behaviors[n]?.orElse fun _ => s.behaviors.getLast?).getD .answer

end Script

def Behavior.task {α : Type} (ending : Ending α) : Behavior → StageTask α
  | .answer => { ending }
  | .fail message => { ending := .failure message }
  | .panic => { ending := .panicked }
  | .wait ms => { ending, delayMs := ms }

def Script.task {α : Type} (s : Script α) (n : Nat) : StageTask α := (s.behavior n).task s.ending

structure Scripts where
  credential : Option (Script CredentialFindings) := none
  embedding : Option (Script EmbeddingFindings) := none
  anomaly : Option (Script BehaviorFindings) := none
  threat : Option (Script ThreatFindings) := none

/-- The memory of the analyzers, and how often each script has been called. -/
structure Rehearsal (σ : Type) where
  analyzers : σ
  calls : PerStage Nat := ⟨0, 0, 0, 0⟩

namespace Rehearsal

variable {σ α : Type}

def lift (work : σ → σ × α) (r : Rehearsal σ) : Rehearsal σ × α :=
  let (analyzers, a) := work r.analyzers
  ({ r with analyzers }, a)

/-- Follows the script of a stage, or does the work where there is none. -/
def run (stage : Stage) (script : Option (Script α)) (work : σ → σ × StageTask α) (r : Rehearsal σ) :
    Rehearsal σ × StageTask α :=
  match script with
  | none => r.lift work
  | some s =>
    ({ r with calls := r.calls.modify (· + 1) stage }, s.task (r.calls.get stage))

end Rehearsal

/-- Analyzers of which some follow scripts. What a script has embedded is not compared with
anything. -/
def Analyzers.scripted {σ : Type} (A : Analyzers σ) (s : Scripts) : Analyzers (Rehearsal σ) where
  credential email digest := Rehearsal.run .credential s.credential (A.credential email digest)
  embed a := Rehearsal.run .embedding s.embedding (A.embed a)
  score profiles a e r :=
    if s.embedding.isSome then (r, { ending := .value e }) else r.lift (A.score profiles a e)
  anomaly profiles a := Rehearsal.run .anomaly s.anomaly (A.anomaly profiles a)
  threat now a := Rehearsal.run .threat s.threat (A.threat now a)
  cleanup now := Rehearsal.lift (A.cleanup now)

end LoginRisk
