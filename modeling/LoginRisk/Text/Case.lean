import LoginRisk.Text.Cased
import LoginRisk.Text.CaseTable

/-!
Upper and lower case of whole texts, in every script and without regard to a locale. One letter may
become several, and a capital sigma at the end of a word becomes the final form.
-/

namespace LoginRisk.Text

/-- The other case of a letter beyond ASCII: its expansion if it has one, else its paired letter. -/
def mapCase (runs : List CaseRun) (expansions : List (Nat × List Nat)) (c : Char) : List Char :=
  match expansions.lookup c.toNat with
  | some points => points.map Char.ofNat
  | none =>
    match runs.find? (·.covers c.toNat) with
    | some run => [Char.ofNat (c.toNat + run.shift).toNat]
    | none => [c]

def lowerChar (c : Char) : List Char :=
  if c.toNat < 128 then [c.toLower] else mapCase lowerRuns lowerExpansions c

def upperChar (c : Char) : List Char :=
  if c.toNat < 128 then [c.toUpper] else mapCase upperRuns upperExpansions c

/-- Whether the nearest character that is not passed over is a letter with a case. -/
def nextIsCased (cs : List Char) : Bool :=
  match cs.dropWhile isCaseIgnorable with
  | [] => false
  | c :: _ => isCased c

/-- The lower case of a text, `before` being what precedes it with the nearest character first. -/
def lowerAfter : List Char → List Char → List Char
  | _, [] => []
  | before, c :: rest =>
    (if c = 'Σ' then [if nextIsCased before && !nextIsCased rest then 'ς' else 'σ'] else lowerChar c)
      ++ lowerAfter (c :: before) rest

def lowerChars (cs : List Char) : List Char := lowerAfter [] cs

def upperChars (cs : List Char) : List Char := cs.flatMap upperChar

def toLower (s : String) : String := .ofList (lowerChars s.toList)

def toUpper (s : String) : String := .ofList (upperChars s.toList)

def eqIgnoringAsciiCase (a b : String) : Bool :=
  a.toList.map Char.toLower == b.toList.map Char.toLower

end LoginRisk.Text
