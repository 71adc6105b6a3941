import LoginRisk.Attempt.Json
import LoginRisk.Json.Reader

/-!
The commands of the command loop: one JSON value on each line, an object with the command's name under
`command`, or an array that starts with the name.
-/

namespace LoginRisk

inductive Command where
  | analyze (attempt : Attempt)
  | outcome (attempt : Attempt) (success : Bool)
  | feedback (attempt : Attempt) (map : List (String × Json))
  | health
  | metrics
  | errors (limit : Nat)

namespace Command

open Json (Decoder Fields DecodeError)
open Json.Decode (bool string nat)

def defaultLimit : Nat := 20

/-- The members of an object, the last of repeated names kept. -/
def members : Decoder (List (String × Json)) := Json.Decode.map .ok

/-- A command without fields. An array must end after the name. -/
def bare (c : Command) : Decoder Command := fun j => do
  match j with
  | .array (_ :: _) => .error (.expected "fewer items")
  | _ => return c

/-- The command of a name with its fields, given as an object or in order. The user is named for the
reader's sake: profiles are found by the attempt. -/
def ofFields (name : String) (j : Json) : Except DecodeError Command :=
  match name with
  | "analyze" => do
    let f ← Fields.of ["context"] j
    return .analyze (← f.required "context" Attempt.ofJson)
  | "outcome" => do
    let f ← Fields.of ["user_id", "context", "success"] j
    let _ ← f.required "user_id" string
    return .outcome (← f.required "context" Attempt.ofJson) (← f.required "success" bool)
  | "feedback" => do
    let f ← Fields.of ["user_id", "context", "feedback"] j
    let _ ← f.required "user_id" string
    return .feedback (← f.required "context" Attempt.ofJson) (← f.required "feedback" members)
  | "health" => bare .health j
  | "metrics" => bare .metrics j
  | "errors" => do
    let f ← Fields.of ["limit"] j
    return .errors (← f.withDefault "limit" (nat 64) defaultLimit)
  | _ => .error (.expected "a known command")

def ofJson : Decoder Command
  | .object all =>
    match all.filter fun m => m.1 = "command" with
    | [] => .error (.missing "command")
    | [(_, name)] => do ofFields (← string name) (.object (all.filter fun m => m.1 ≠ "command"))
    | _ => .error (.repeated "command")
  | .array (name :: fields) => do ofFields (← string name) (.array fields)
  | _ => .error (.expected "a command")

inductive LineError where
  | text (error : Json.ReadError)
  | form (error : DecodeError)

def LineError.message : LineError → String
  | .text e => "invalid command: " ++ e.message
  | .form e => "invalid command: " ++ e.message

def read (line : String) : Except LineError Command := do
  let j ← (Json.read line).mapError .text
  (ofJson j).mapError .form

end Command

end LoginRisk
