import LoginRisk.Json.Decode
import LoginRisk.Risk.Action
import LoginRisk.Risk.Level
import LoginRisk.Risk.Stage

/-!
Levels, actions and stage reports as JSON values.
-/

namespace LoginRisk

open Json (Decoder Fields)
open Json.Decode (bool string nat float)

def RiskLevel.ofJson : Decoder RiskLevel := Json.Decode.name (RiskLevel.all.map fun l => (l.name, l))

def ActionKind.ofJson : Decoder ActionKind :=
  Json.Decode.name (ActionKind.all.map fun k => (k.name, k))

def Stage.ofJson : Decoder Stage := Json.Decode.name (Stage.all.map fun s => (s.label, s))

namespace Action

def ofJson : Decoder Action := fun j => do
  let f ← Fields.of ["action_type", "priority", "description", "parameters", "automated",
    "requires_human_review"] j
  return {
    kind := ← f.required "action_type" ActionKind.ofJson
    priority := ← f.required "priority" (nat 8)
    description := ← f.required "description" string
    parameters := ← f.required "parameters" (Json.Decode.map string)
    automated := ← f.required "automated" bool
    requiresHumanReview := ← f.required "requires_human_review" bool }

def toJson (a : Action) : Json := .object [
  ("action_type", .string a.kind.name),
  ("priority", .nat a.priority),
  ("description", .string a.description),
  ("parameters", .object (a.parameters.map fun p => (p.1, .string p.2))),
  ("automated", .bool a.automated),
  ("requires_human_review", .bool a.requiresHumanReview)]

end Action

namespace FallbackReason

def bare (r : FallbackReason) : Option Json → Except Json.DecodeError FallbackReason
  | none | some .null => .ok r
  | some _ => .error (.expected "no detail")

/-- What a timeout carries is an object; a list of its fields is refused. -/
def timeoutOf : Option Json → Except Json.DecodeError FallbackReason
  | some (.object members) => do
    let f ← Fields.of ["budget_ms"] (.object members)
    return .timeout (← f.required "budget_ms" (nat 64))
  | _ => .error (.expected "a budget")

def failureOf : Option Json → Except Json.DecodeError FallbackReason
  | some d => (string d).map .failure
  | none => .error (.missing "detail")

def kinds : List (String × (Option Json → Except Json.DecodeError FallbackReason)) := [
  ("timeout", timeoutOf), ("failure", failureOf), ("panicked", bare .panicked),
  ("disabled", bare .disabled), ("pipeline_failure", bare .pipelineFailure)]

/-- A kind and its detail. In a list of the two none may be left out, and the kind is a string. -/
def ofJson : Decoder FallbackReason
  | .array [kind, detail] => do
    match kinds.lookup (← string kind) with
    | some read => read (some detail)
    | none => .error (.expected "a known kind")
  | .array _ => .error (.expected "a kind and its detail")
  | j => do
    let f ← Fields.of ["kind", "detail"] j
    let read ← f.required "kind" (Json.Decode.name kinds)
    read (f.given.lookup "detail")

def toJson : FallbackReason → Json
  | .timeout budgetMs =>
    .object [("kind", .string "timeout"), ("detail", .object [("budget_ms", .nat budgetMs)])]
  | .failure message => .object [("kind", .string "failure"), ("detail", .string message)]
  | .panicked => .object [("kind", .string "panicked")]
  | .disabled => .object [("kind", .string "disabled")]
  | .pipelineFailure => .object [("kind", .string "pipeline_failure")]

end FallbackReason

namespace StageReport

def ofJson : Decoder StageReport := fun j => do
  let f ← Fields.of ["stage", "elapsed_ms", "fallback"] j
  return {
    stage := ← f.required "stage" Stage.ofJson
    elapsedMs := ← f.required "elapsed_ms" float
    fallback := ← f.nullable "fallback" FallbackReason.ofJson }

def toJson (r : StageReport) : Json := .object [
  ("stage", .string r.stage.label),
  ("elapsed_ms", .float r.elapsedMs),
  ("fallback", .option FallbackReason.toJson r.fallback)]

end StageReport

end LoginRisk
