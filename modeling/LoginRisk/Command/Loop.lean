import LoginRisk.Assessment.Json
import LoginRisk.Command.Basic
import LoginRisk.Json.Writer
import LoginRisk.Service.Report
import LoginRisk.Service.Run

/-!
The command loop: each line that is not blank is answered with one JSON object. A line that is no
command is refused and changes nothing.
-/

namespace LoginRisk.Command

variable {σ : Type}

def accepted (result : Json) : Json := .object [("ok", .bool true), ("result", result)]

def refused (e : LineError) : Json := .object [("ok", .bool false), ("error", .string e.message)]

def written (answer : Json) : String := answer.sorted.compact ++ "\n"

def queued : Json := .object [("queued", .bool true)]

def run (settings : Settings) (A : Analyzers σ) (env : Surroundings) (c : Command) (s : Service σ) :
    Service σ × Json :=
  match c with
  | .analyze a =>
    let (s, reply) := s.analyze settings A env a
    (s, reply.assessment.toJson)
  | .outcome a success => (s.submit settings true (.outcome a success), queued)
  | .feedback a map => (s.submitFeedback settings true a map, queued)
  | .health => (s, (s.healthReport env.now).toJson)
  | .metrics =>
    (s, .object [
      ("processing", s.pipeline.metrics.toJson env.now),
      ("learning", s.learning.stats.toJson)])
  | .errors limit => (s, .array ((s.errorHistory limit).map ErrorRecord.toJson))

def answerLine (settings : Settings) (A : Analyzers σ) (env : Surroundings) (line : String)
    (s : Service σ) : Service σ × Option Json :=
  if Text.trim line = "" then (s, none)
  else
    match read line with
    | .error e => (s, some (refused e))
    | .ok c =>
      let (s, result) := run settings A env c s
      (s, some (accepted result))

def answerLines (settings : Settings) (A : Analyzers σ) (env : Surroundings) :
    List String → Service σ → Service σ × List Json
  | [], s => (s, [])
  | line :: rest, s =>
    let (s, answer) := answerLine settings A env line s
    let (s, answers) := answerLines settings A env rest s
    (s, answer.toList ++ answers)

end LoginRisk.Command
