import LoginRisk.Risk.Stage

/-!
The work of one stage on one attempt, and what becomes of it within its time budget.
-/

namespace LoginRisk

inductive Ending (α : Type) where
  | value (a : α)
  | failure (message : String)
  | panicked

namespace Ending

def map {α β : Type} (f : α → β) : Ending α → Ending β
  | .value a => .value (f a)
  | .failure message => .failure message
  | .panicked => .panicked

/-- The value, for work that can only panic. -/
def ofExcept {ε α : Type} : Except ε α → Ending α
  | .ok a => .value a
  | .error _ => .panicked

end Ending

/-- A piece of work: how it ends, how long the timer lets it wait, and how long it took by the
stopwatch. -/
structure StageTask (α : Type) where
  ending : Ending α
  delayMs : Nat := 0
  elapsedMs : Float := 0.0

/-- What a stage contributes: the value of its work, or its fallback and why. -/
inductive StageOutcome (α : Type) where
  | completed (a : α)
  | fallback (a : α) (reason : FallbackReason)

namespace StageOutcome

variable {α : Type}

def value : StageOutcome α → α
  | .completed a => a
  | .fallback a _ => a

def reason : StageOutcome α → Option FallbackReason
  | .completed _ => none
  | .fallback _ reason => some reason

def isFallback (o : StageOutcome α) : Bool := o.reason.isSome

end StageOutcome

structure StageRun (α : Type) where
  outcome : StageOutcome α
  report : StageReport

namespace StageRun

variable {α : Type}

def disabled (stage : Stage) (fallback : α) : StageRun α :=
  ⟨.fallback fallback .disabled, ⟨stage, 0.0, some .disabled⟩⟩

/-- The outcome of work within a budget. Work that still waits when the budget ends is given up. -/
def outcomeOf (budgetMs : Nat) (fallback : α) (task : StageTask α) : StageOutcome α :=
  if budgetMs ≤ task.delayMs then .fallback fallback (.timeout budgetMs)
  else
    match task.ending with
    | .value a => .completed a
    | .failure message => .fallback fallback (.failure message)
    | .panicked => .fallback fallback .panicked

def ofTask (stage : Stage) (budgetMs : Nat) (fallback : α) (task : StageTask α) : StageRun α :=
  let outcome := outcomeOf budgetMs fallback task
  ⟨outcome, ⟨stage, task.elapsedMs, outcome.reason⟩⟩

end StageRun

end LoginRisk
