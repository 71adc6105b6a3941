import LoginRisk.Proofs.Except
import LoginRisk.Proofs.Learning.Bias
import LoginRisk.Proofs.Number.Sign
import LoginRisk.Service.Basic

/-!
Which maps are accepted as feedback. Numbers are checked and must be shares. A flag or a text of another type is not
refused but counts as absent, so that a map may say something else than what is understood.
-/

namespace LoginRisk

def JsonNumber.IsShare : JsonNumber → Prop
  | .whole n => 0 ≤ n ∧ n ≤ 1
  | .float x => 0.0 ≤ x ∧ x ≤ 1.0

namespace Feedback

open Json (member?)

def IsFlag (j : Json) : Prop := ∃ b, j = .bool b

def IsText (j : Json) : Prop := ∃ s, j = .string s

def IsShare (j : Json) : Prop := ∃ n, j = .number n ∧ n.IsShare

def LeftOut (map : List (String × Json)) (name : String) : Prop :=
  member? map name = none ∨ member? map name = some .null

/-- A member that may be left out is left out, or it is as it should be. -/
def Fits (P : Json → Prop) (map : List (String × Json)) (name : String) : Prop :=
  LeftOut map name ∨ ∃ j, member? map name = some j ∧ P j

structure Typed (map : List (String × Json)) : Prop where
  positive : Fits IsFlag map "is_false_positive"
  negative : Fits IsFlag map "is_false_negative"
  source : Fits IsText map "source"
  notes : Fits IsText map "notes"

structure WellFormed (map : List (String × Json)) : Prop extends Typed map where
  oneKind : ¬(member? map "is_false_positive" = some (.bool true) ∧ member? map "is_false_negative" = some (.bool true))
  confidence : Fits IsShare map "confidence"
  originalScore : Fits IsShare map "original_risk_score"

/-- The feedback is what the map says. What is left out has its default, and so has what is of another type. -/
structure Says (map : List (String × Json)) (f : Feedback) : Prop where
  positive : f.kind = .falsePositive ↔ member? map "is_false_positive" = some (.bool true)
  negative : f.kind = .falseNegative ↔ member? map "is_false_negative" = some (.bool true)
  confidence : ∀ n, member? map "confidence" = some (.number n) → f.confidence = n.toFloat
  noConfidence : LeftOut map "confidence" → f.confidence = 1.0
  originalScore : ∀ n, member? map "original_risk_score" = some (.number n) → f.originalScore = some n.toFloat
  noOriginalScore : LeftOut map "original_risk_score" → f.originalScore = none
  source : ∀ s, member? map "source" = some (.string s) → f.source = s
  noSource : (∀ s, member? map "source" ≠ some (.string s)) → f.source = "user"
  notes : ∀ s, f.notes = some s ↔ member? map "notes" = some (.string s)

def memberNames : List String :=
  ["is_false_positive", "is_false_negative", "confidence", "original_risk_score", "source", "notes"]

variable {map : List (String × Json)} {name : String}

lemma isShare_whole_iff (n : ℤ) : (0.0 ≤ Float.ofInt n ∧ Float.ofInt n ≤ 1.0) ↔ 0 ≤ n ∧ n ≤ 1 := by
  have hn := Number.isRounding_ofInt n
  constructor
  · rintro ⟨h0, h1⟩
    constructor <;> by_contra hlt
    · have hle : Float.ofInt n ≤ -1.0 := hn.mono (Number.isRounding_exact rfl).neg <| by
        rw [Number.exact_one]
        exact_mod_cast Int.le_sub_one_of_lt (not_le.mp hlt)
      exact absurd (Number.float_le_trans h0 hle) (by decide)
    · have hle : 2.0 ≤ Float.ofInt n := (Number.isRounding_exact rfl).mono hn <| by
        rw [Number.exact_two]
        exact_mod_cast not_le.mp hlt
      exact absurd (Number.float_le_trans hle h1) (by decide)
  · rintro ⟨h0, h1⟩
    constructor
    · refine (Number.isRounding_exact rfl).mono hn ?_
      rw [Number.exact_zero]
      exact_mod_cast h0
    · refine hn.mono (Number.isRounding_exact rfl) ?_
      rw [Number.exact_one]
      exact_mod_cast h1

lemma isShare_iff (n : JsonNumber) : (0.0 ≤ n.toFloat ∧ n.toFloat ≤ 1.0) ↔ n.IsShare := by
  cases n with
  | whole n => exact isShare_whole_iff n
  | float x => rfl

lemma unit?_eq_ok_iff {share : Option Float} : unit? map name = .ok share ↔
    (LeftOut map name ∧ share = none) ∨
      ∃ n, member? map name = some (.number n) ∧ n.IsShare ∧ share = some n.toFloat := by
  unfold unit? LeftOut
  cases member? map name with
  | none => simp [eq_comm]
  | some j =>
    cases j with
    | null => simp [eq_comm]
    | number n =>
      dsimp only
      split <;> rename_i h <;>
        rw [Bool.and_eq_true, decide_eq_true_iff, decide_eq_true_iff, isShare_iff] at h
      · simp [h, eq_comm]
      · simp [h]
    | bool _ | string _ | array _ | object _ => simp

lemma eq_of_unit? {share : Option Float} (h : unit? map name = .ok share) {n : JsonNumber}
    (hn : member? map name = some (.number n)) : share = some n.toFloat := by
  rw [unit?_eq_ok_iff, LeftOut, hn] at h
  simp only [reduceCtorEq, or_self, false_and, false_or, Option.some.injEq, Json.number.injEq] at h
  obtain ⟨n', rfl, -, rfl⟩ := h
  rfl

lemma eq_none_of_unit? {share : Option Float} (h : unit? map name = .ok share) (hout : LeftOut map name) :
    share = none := by
  obtain ⟨-, rfl⟩ | ⟨n, hn, -⟩ := unit?_eq_ok_iff.mp h
  · rfl
  · rw [LeftOut, hn] at hout
    simp at hout

lemma exists_unit?_iff : (∃ share, unit? map name = .ok share) ↔ Fits IsShare map name := by
  simp only [unit?_eq_ok_iff]
  constructor
  · rintro ⟨share, ⟨hout, -⟩ | ⟨n, hn, hshare, -⟩⟩
    · exact .inl hout
    · exact .inr ⟨_, hn, n, rfl, hshare⟩
  · rintro (hout | ⟨_, hn, n, rfl, hshare⟩)
    · exact ⟨none, .inl ⟨hout, rfl⟩⟩
    · exact ⟨_, .inr ⟨n, hn, hshare, rfl⟩⟩

lemma flag_eq_true_iff : flag map name = true ↔ member? map name = some (.bool true) := by
  unfold flag
  split
  · rename_i b h
    rw [h]
    cases b <;> simp
  · rename_i h
    exact iff_of_false Bool.false_ne_true fun htrue => h true htrue

lemma text?_eq_some_iff {s : String} : text? map name = some s ↔ member? map name = some (.string s) := by
  unfold text?
  split
  · rename_i t h
    rw [h]
    simp
  · rename_i h
    exact iff_of_false (by simp) (h s)

lemma kindOf_eq_ok_iff {positive negative : Bool} {kind : FeedbackKind} : kindOf positive negative = .ok kind ↔
    ¬(positive = true ∧ negative = true) ∧ (kind = .falsePositive ↔ positive = true) ∧
      (kind = .falseNegative ↔ negative = true) := by
  cases positive <;> cases negative <;> cases kind <;> simp [kindOf]

lemma exists_kindOf_iff (positive negative : Bool) :
    (∃ kind, kindOf positive negative = .ok kind) ↔ ¬(positive = true ∧ negative = true) := by
  cases positive <;> cases negative <;> simp [kindOf]

lemma ofMap_eq_ok_iff {f : Feedback} : ofMap map = .ok f ↔ ∃ kind confidence originalScore,
    kindOf (flag map "is_false_positive") (flag map "is_false_negative") = .ok kind ∧
    unit? map "confidence" = .ok confidence ∧ unit? map "original_risk_score" = .ok originalScore ∧
    f = ⟨kind, confidence.getD 1.0, originalScore, (text? map "source").getD "user", text? map "notes"⟩ := by
  constructor
  · intro h
    obtain ⟨kind, hkind, h⟩ := exists_of_bind_eq_ok h
    obtain ⟨confidence, hconfidence, h⟩ := exists_of_bind_eq_ok h
    obtain ⟨score, hscore, h⟩ := exists_of_bind_eq_ok h
    rw [mapError_eq_ok_iff] at hconfidence hscore
    exact ⟨kind, confidence, score, hkind, hconfidence, hscore, (Except.ok.inj h).symm⟩
  · rintro ⟨kind, confidence, score, hkind, hconfidence, hscore, rfl⟩
    rw [ofMap, hkind, ok_bind, mapError_eq_ok_iff.mpr hconfidence, ok_bind, mapError_eq_ok_iff.mpr hscore, ok_bind]
    rfl

lemma exists_ofMap_iff : (∃ f, ofMap map = .ok f) ↔
    ¬(member? map "is_false_positive" = some (.bool true) ∧ member? map "is_false_negative" = some (.bool true)) ∧
    Fits IsShare map "confidence" ∧ Fits IsShare map "original_risk_score" := by
  rw [← flag_eq_true_iff, ← flag_eq_true_iff, ← exists_kindOf_iff, ← exists_unit?_iff, ← exists_unit?_iff]
  simp only [ofMap_eq_ok_iff]
  constructor
  · rintro ⟨f, kind, confidence, score, hkind, hconfidence, hscore, -⟩
    exact ⟨⟨_, hkind⟩, ⟨_, hconfidence⟩, _, hscore⟩
  · rintro ⟨⟨kind, hkind⟩, ⟨confidence, hconfidence⟩, score, hscore⟩
    exact ⟨_, kind, confidence, score, hkind, hconfidence, hscore, rfl⟩

lemma says_of_ofMap {f : Feedback} (h : ofMap map = .ok f) : Says map f := by
  obtain ⟨kind, confidence, score, hkind, hconfidence, hscore, rfl⟩ := ofMap_eq_ok_iff.mp h
  obtain ⟨-, hpositive, hnegative⟩ := kindOf_eq_ok_iff.mp hkind
  exact {
    positive := hpositive.trans flag_eq_true_iff
    negative := hnegative.trans flag_eq_true_iff
    confidence := fun n hn => by rw [eq_of_unit? hconfidence hn, Option.getD_some]
    noConfidence := fun hout => by rw [eq_none_of_unit? hconfidence hout, Option.getD_none]
    originalScore := fun n hn => eq_of_unit? hscore hn
    noOriginalScore := eq_none_of_unit? hscore
    source := fun s hs => by rw [text?_eq_some_iff.mpr hs, Option.getD_some]
    noSource := fun hs => by
      have htext : text? map "source" = none :=
        Option.eq_none_iff_forall_ne_some.mpr fun s h => hs s (text?_eq_some_iff.mp h)
      rw [htext, Option.getD_none]
    notes := fun s => text?_eq_some_iff }

lemma ofMap_congr {map' : List (String × Json)} (h : ∀ name ∈ memberNames, member? map' name = member? map name) :
    ofMap map' = ofMap map := by
  simp only [memberNames, List.forall_mem_cons] at h
  obtain ⟨hpositive, hnegative, hconfidence, hscore, hsource, hnotes, -⟩ := h
  simp only [ofMap, flag, unit?, text?, hpositive, hnegative, hconfidence, hscore, hsource, hnotes]

lemma wellFormed_iff : WellFormed map ↔ (∃ f, ofMap map = .ok f) ∧ Typed map := by
  rw [exists_ofMap_iff]
  constructor
  · intro h
    exact ⟨⟨h.oneKind, h.confidence, h.originalScore⟩, h.toTyped⟩
  · rintro ⟨⟨hkind, hconfidence, hscore⟩, htyped⟩
    exact { htyped with oneKind := hkind, confidence := hconfidence, originalScore := hscore }

/-- Among maps whose flags and texts have their types exactly those are accepted that are well-formed, and the others
hand over no job. An accepted map is taken for what it says, whatever members of other names it has. Of other maps
flags and texts are passed over. -/
theorem accepted_iff_wellFormed (map : List (String × Json)) :
    (WellFormed map ↔ (∃ f, ofMap map = .ok f) ∧ Typed map) ∧
    ((∃ f, ofMap map = .ok f) ↔
      ¬(member? map "is_false_positive" = some (.bool true) ∧
        member? map "is_false_negative" = some (.bool true)) ∧
      Fits IsShare map "confidence" ∧ Fits IsShare map "original_risk_score") ∧
    (∀ f, ofMap map = .ok f → Says map f) ∧
    (∀ map', (∀ name ∈ memberNames, member? map' name = member? map name) → ofMap map' = ofMap map) ∧
    (Typed map → ¬WellFormed map → ∀ {σ : Type} (settings : Settings) (canDetach : Bool) (a : Attempt) (s : Service σ),
      s.submitFeedback settings canDetach a map = s) := by
  refine ⟨wellFormed_iff, exists_ofMap_iff, fun f => says_of_ofMap, fun map' => ofMap_congr, ?_⟩
  intro htyped hmalformed σ settings canDetach a s
  have hrefused : ¬∃ f, ofMap map = .ok f := fun haccepted => hmalformed (wellFormed_iff.mpr ⟨haccepted, htyped⟩)
  unfold Service.submitFeedback
  cases hmap : ofMap map with
  | error e => rfl
  | ok f => exact absurd ⟨f, hmap⟩ hrefused

def flagged : List (String × Json) := [
  ("is_false_positive", .bool true), ("confidence", .float 0.9), ("source", .string "security_team"),
  ("notes", .null), ("ticket", .nat 7)]

def unsure : List (String × Json) := [("confidence", .string "high")]

theorem flagged_accepted :
    (∃ f, ofMap flagged = .ok f ∧ f.kind = .falsePositive ∧ f.confidence = 0.9 ∧ f.source = "security_team" ∧
      f.notes = none) ∧
    Service.submitFeedback {} true Learning.bareAttempt unsure (.initial () .memory) = .initial () .memory := by
  have hflagged : WellFormed flagged :=
    { positive := .inr ⟨_, rfl, true, rfl⟩
      negative := .inl (.inl rfl)
      source := .inr ⟨_, rfl, _, rfl⟩
      notes := .inl (.inr rfl)
      oneKind := fun h => nomatch h.2
      confidence := .inr ⟨_, rfl, _, rfl, by decide, by decide⟩
      originalScore := .inl (.inl rfl) }
  have hunsure : Typed unsure := ⟨.inl (.inl rfl), .inl (.inl rfl), .inl (.inl rfl), .inl (.inl rfl)⟩
  obtain ⟨hwell, -, hsays, -⟩ := accepted_iff_wellFormed flagged
  obtain ⟨f, hf⟩ := (hwell.mp hflagged).1
  have hf' := hsays f hf
  refine ⟨⟨f, hf, hf'.positive.mpr rfl, hf'.confidence _ rfl, hf'.source _ rfl, ?_⟩,
    (accepted_iff_wellFormed unsure).2.2.2.2 hunsure (fun h => ?_) {} true Learning.bareAttempt (.initial () .memory)⟩
  · exact Option.eq_none_iff_forall_ne_some.mpr fun s hs => by cases (hf'.notes s).mp hs
  · obtain (hout | hout) | ⟨j, hj, n, rfl, -⟩ := h.confidence
    · cases hout
    · cases hout
    · cases hj

/-- A flag in words is passed over, so that what is called wrong is taken for right. -/
theorem flag_in_words_confirms :
    ¬WellFormed [("is_false_positive", .string "true")] ∧
    (∃ f, ofMap [("is_false_positive", .string "true")] = .ok f ∧ f.kind = .confirmed) ∧
    (Service.submitFeedback {} true Learning.bareAttempt [("is_false_positive", .string "true")]
      (.initial () .memory)).detached.length = 1 := by
  refine ⟨fun h => ?_, ⟨_, rfl, rfl⟩, rfl⟩
  obtain (hout | hout) | ⟨j, hj, b, rfl⟩ := h.positive
  · cases hout
  · cases hout
  · cases hj

end Feedback

end LoginRisk
