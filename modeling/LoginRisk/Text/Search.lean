/-!
Finding and splitting inside texts.
-/

namespace LoginRisk.Text

/-- Whether `part` occurs in a list of characters as one unbroken stretch. -/
def hasInfix (part : List Char) : List Char → Bool
  | [] => part.isEmpty
  | c :: cs => part.isPrefixOf (c :: cs) || hasInfix part cs

def contains (s part : String) : Bool := hasInfix part.toList s.toList

def splitFirst? (sep : Char) : List Char → Option (List Char × List Char)
  | [] => none
  | c :: cs =>
    if c = sep then some ([], cs) else (splitFirst? sep cs).map fun p => (c :: p.1, p.2)

def before (sep : Char) (cs : List Char) : List Char := cs.takeWhile (· ≠ sep)

def afterLast? (sep : Char) (cs : List Char) : Option (List Char) :=
  if cs.contains sep then some (cs.reverse.takeWhile (· ≠ sep)).reverse else none

/-- The longest stretches of characters that satisfy `p`, in order. -/
def runsOf (p : Char → Bool) (cs : List Char) : List (List Char) :=
  (cs.splitOnP fun c => !p c).filter (!·.isEmpty)

def distinct {α : Type} [BEq α] (xs : List α) : List α :=
  xs.foldl (fun seen x => if seen.contains x then seen else seen ++ [x]) []

end LoginRisk.Text
