import LoginRisk.Command.Loop
import LoginRisk.Proofs.Json.Written
import Mathlib.Data.List.Forall2

/-!
A dialogue with the command loop. Between two lines anything may happen to the service: jobs run, the timer
goes on, a store begins to fail. The output has one line for each line that is not blank, in the same order.
Lines that only ask, or are no commands, might as well not be there: they leave the service as it is, and with
it the answers to all other lines.
-/

namespace LoginRisk.Command

variable {σ : Type}

def asks : Command → Bool
  | .health | .metrics | .errors _ => true
  | _ => false

def isBlank (line : String) : Bool := Text.trim line = ""

/-- A line that is blank or no command, or that only asks. -/
def isQuiet (line : String) : Bool :=
  isBlank line ||
    match read line with
    | .error _ => true
    | .ok c => c.asks

/-- What happens next in a dialogue: a line is read, or the service changes behind the commands, as it does
when the timer goes on before a line or jobs run after it. -/
inductive Turn (σ : Type) where
  | line (env : Surroundings) (text : String)
  | meanwhile (change : Service σ → Service σ)

namespace Turn

def request? : Turn σ → Option String
  | .line _ text => if isBlank text then none else some text
  | .meanwhile _ => none

def isQuiet : Turn σ → Bool
  | .line _ text => Command.isQuiet text
  | .meanwhile _ => false

end Turn

/-- Takes turns, and keeps each line that is answered with its answer. -/
def dialogue (settings : Settings) (A : Analyzers σ) :
    List (Turn σ) → Service σ → Service σ × List (String × Json)
  | [], s => (s, [])
  | .meanwhile change :: rest, s => dialogue settings A rest (change s)
  | .line env text :: rest, s =>
    let (s, answer) := answerLine settings A env text s
    let (s, exchanges) := dialogue settings A rest s
    (s, (answer.map (text, ·)).toList ++ exchanges)

def output (answers : List Json) : String := .join (answers.map written)

section Responses

/-- What the result of a command is, whatever the analyzers do. -/
def IsResult : Command → Json → Prop
  | .analyze _, result => ∃ r : Assessment, result = r.toJson
  | .outcome .., result | .feedback .., result => result = queued
  | .health, result => ∃ r : HealthReport, result = r.toJson
  | .metrics, result => ∃ (now : Instant) (m : Metrics) (stats : LearningStats),
      result = .object [("processing", m.toJson now), ("learning", stats.toJson)]
  | .errors limit, result => ∃ records : List ErrorRecord,
      records.length ≤ limit ∧ result = .array (records.map ErrorRecord.toJson)

def acceptedText (result : Json) : String := "\x7b\"ok\":true,\"result\":" ++ result.sorted.compact ++ "\x7d"

def refusedText (e : LineError) : String := "\x7b\"error\":" ++ Json.quoted e.message ++ ",\"ok\":false\x7d"

def Responds (line response : String) : Prop :=
  match read line with
  | .error e => response = refusedText e
  | .ok c => ∃ result, IsResult c result ∧ response = acceptedText result

lemma compact_accepted (result : Json) : (accepted result).sorted.compact = acceptedText result := by
  have hless : ¬"result" < "ok" := by decide
  have hsorted : (accepted result).sorted = .object [("ok", .bool true), ("result", result.sorted)] := by
    simp [accepted, Json.sorted, Json.sortedMembers, Assoc.putSorted, hless]
  have hok : Json.quoted "ok" = "\"ok\"" := rfl
  have hresult : Json.quoted "result" = "\"result\"" := rfl
  unfold acceptedText
  rw [hsorted, ← String.toList_inj]
  simp [Json.compact, Json.compactMembers, hok, hresult]

lemma compact_refused (e : LineError) : (refused e).sorted.compact = refusedText e := by
  have hless : "error" < "ok" := by decide
  have hsorted : (refused e).sorted = .object [("error", .string e.message), ("ok", .bool false)] := by
    simp [refused, Json.sorted, Json.sortedMembers, Assoc.putSorted, hless]
  have hok : Json.quoted "ok" = "\"ok\"" := rfl
  have herror : Json.quoted "error" = "\"error\"" := rfl
  unfold refusedText
  rw [hsorted, ← String.toList_inj]
  simp [Json.compact, Json.compactMembers, hok, herror]

lemma splitOn_output (answers : List Json) :
    (output answers).toList.splitOn '\n' = (answers.map fun j => j.sorted.compact.toList) ++ [[]] := by
  induction answers with
  | nil => rfl
  | cons j rest ih =>
    have hline : (output (j :: rest)).toList = j.sorted.compact.toList ++ '\n' :: (output rest).toList := by
      simp [output, written]
    rw [hline, List.splitOn_append_cons_self_of_not_mem (Json.onOneLine_compact _).not_mem_newline, ih]
    rfl

end Responses

section Steps

variable {settings : Settings} {A : Analyzers σ} {env : Surroundings} {line : String} {s : Service σ}

lemma isResult_run (c : Command) : IsResult c (run settings A env c s).2 := by
  cases c with
  | analyze a => exact ⟨_, rfl⟩
  | outcome a success => rfl
  | feedback a map => rfl
  | health => exact ⟨_, rfl⟩
  | metrics => exact ⟨_, _, _, rfl⟩
  | errors limit => exact ⟨_, List.length_take_le .., rfl⟩

lemma run_of_asks {c : Command} (h : c.asks = true) : (run settings A env c s).1 = s := by
  cases c with
  | health | metrics | errors limit => rfl
  | analyze a => cases h
  | outcome a success => cases h
  | feedback a map => cases h

lemma answerLine_of_blank (h : isBlank line = true) : answerLine settings A env line s = (s, none) := by
  rw [isBlank, decide_eq_true_eq] at h
  rw [answerLine, if_pos h]

lemma exists_answer (settings : Settings) (A : Analyzers σ) (env : Surroundings) (s : Service σ)
    (h : isBlank line = false) :
    ∃ answer, (answerLine settings A env line s).2 = some answer ∧ Responds line answer.sorted.compact := by
  rw [isBlank, decide_eq_false_iff_not] at h
  unfold answerLine Responds
  rw [if_neg h]
  cases read line with
  | error e => exact ⟨_, rfl, compact_refused e⟩
  | ok c => exact ⟨_, rfl, _, isResult_run c, compact_accepted _⟩

lemma answerLine_of_quiet (h : isQuiet line = true) : (answerLine settings A env line s).1 = s := by
  cases hblank : isBlank line with
  | true => rw [answerLine_of_blank hblank]
  | false =>
    rw [isQuiet, hblank, Bool.false_or] at h
    rw [isBlank, decide_eq_false_iff_not] at hblank
    rw [answerLine, if_neg hblank]
    cases hread : read line with
    | error e => rfl
    | ok c =>
      rw [hread] at h
      exact run_of_asks h

end Steps

section Dialogues

variable {settings : Settings} {A : Analyzers σ}

lemma dialogue_line (env : Surroundings) (text : String) (rest : List (Turn σ)) (s : Service σ) :
    dialogue settings A (.line env text :: rest) s =
      let next := (answerLine settings A env text s).1
      let answer := (answerLine settings A env text s).2
      ((dialogue settings A rest next).1,
        (answer.map (text, ·)).toList ++ (dialogue settings A rest next).2) := by
  rw [dialogue]

lemma forall₂_responds (turns : List (Turn σ)) (s : Service σ) :
    List.Forall₂ Responds (turns.filterMap Turn.request?)
      ((dialogue settings A turns s).2.map fun x => x.2.sorted.compact) := by
  induction turns generalizing s with
  | nil => exact .nil
  | cons turn rest ih =>
    cases turn with
    | meanwhile change => exact ih (change s)
    | line env text =>
      rw [dialogue_line]
      cases hblank : isBlank text with
      | true =>
        have hrequest : (Turn.line env text : Turn σ).request? = none := by simp [Turn.request?, hblank]
        rw [answerLine_of_blank hblank, List.filterMap_cons_none hrequest]
        exact ih s
      | false =>
        have hrequest : (Turn.line env text : Turn σ).request? = some text := by simp [Turn.request?, hblank]
        obtain ⟨answer, hanswer, hresponds⟩ := exists_answer settings A env s hblank
        rw [hanswer, List.filterMap_cons_some hrequest]
        exact .cons hresponds (ih _)

lemma filter_exchange (text : String) (answer : Option Json) :
    ((answer.map (text, ·)).toList.filter fun x => !isQuiet x.1) =
      if isQuiet text then [] else (answer.map (text, ·)).toList := by
  cases answer <;> cases hquiet : isQuiet text <;> simp [hquiet]

/-- Without its quiet lines a dialogue comes to the same end, and says the same to the other lines. -/
lemma dialogue_filter (turns : List (Turn σ)) (s : Service σ) :
    dialogue settings A (turns.filter fun t => !t.isQuiet) s =
      ((dialogue settings A turns s).1, (dialogue settings A turns s).2.filter fun x => !isQuiet x.1) := by
  induction turns generalizing s with
  | nil => rfl
  | cons turn rest ih =>
    cases turn with
    | meanwhile change => exact ih (change s)
    | line env text =>
      rw [dialogue_line]
      dsimp only
      rw [List.filter_append, filter_exchange]
      cases hquiet : isQuiet text with
      | true =>
        -- What follows a quiet line starts from the same service.
        rw [List.filter_cons_of_neg (by simp [Turn.isQuiet, hquiet]), ih, answerLine_of_quiet hquiet]
        rfl
      | false =>
        rw [List.filter_cons_of_pos (by simp [Turn.isQuiet, hquiet]), dialogue_line]
        dsimp only
        rw [ih]
        rfl

lemma answerLines_eq (env : Surroundings) (lines : List String) (s : Service σ) :
    answerLines settings A env lines s =
      let done := dialogue settings A (lines.map (.line env)) s
      (done.1, done.2.map Prod.snd) := by
  induction lines generalizing s with
  | nil => rfl
  | cons line rest ih =>
    rw [List.map_cons, dialogue_line, answerLines]
    dsimp only
    rw [ih]
    cases (answerLine settings A env line s).2 <;> rfl

end Dialogues

/-- Whatever lines come and whatever happens between them, the output has one line for each line that is not
blank, in the same order: a line that is no command is refused, and every command is accepted. A line that is
blank or no command, or that only asks, leaves the service as it is, so that without all of them the service
comes to the same end and gives the same answers to the other lines. -/
theorem each_line_is_answered (settings : Settings) (A : Analyzers σ) (turns : List (Turn σ)) (s : Service σ) :
    let answered := dialogue settings A turns s
    (∃ responses : List String,
      (output (answered.2.map Prod.snd)).toList.splitOn '\n' = responses.map String.toList ++ [[]] ∧
      List.Forall₂ Responds (turns.filterMap Turn.request?) responses) ∧
    (∀ env line t, isQuiet line = true → (answerLine settings A env line t).1 = t) ∧
    dialogue settings A (turns.filter fun t => !t.isQuiet) s =
      (answered.1, answered.2.filter fun x => !isQuiet x.1) ∧
    (∀ env lines, turns = lines.map (.line env) →
      answerLines settings A env lines s = (answered.1, answered.2.map Prod.snd)) := by
  intro answered
  refine ⟨⟨answered.2.map fun x => x.2.sorted.compact, ?_, forall₂_responds turns s⟩,
    fun env line t => answerLine_of_quiet, dialogue_filter turns s, ?_⟩
  · rw [splitOn_output, List.map_map, List.map_map]
    rfl
  · rintro env lines rfl
    exact answerLines_eq env lines s

/-- Two blank lines around one that asks. -/
example :
    let env : Surroundings := ⟨⟨60, 0⟩, 0, 0.0, []⟩
    output (answerLines {} (Analyzers.standard {} 0.0) env [" ", "[\"errors\", 3]", "\t"]
      (.initial (.initial {}) .memory)).2 = "\x7b\"ok\":true,\"result\":[]\x7d\n" := by
  decide +kernel

end LoginRisk.Command
