import LoginRisk.Text.CodePointSet

/-!
White space and trimming.
-/

namespace LoginRisk.Text

/-- Code points with the White_Space property. -/
def blanks : CodePointSet := ⟨[
  9, 14, 32, 33, 133, 134, 160, 161, 5760, 5761, 8192, 8203, 8232, 8234, 8239, 8240, 8287, 8288,
  12288, 12289]⟩

def isBlank (c : Char) : Bool := blanks.contains c

def trimChars (cs : List Char) : List Char :=
  ((cs.dropWhile isBlank).reverse.dropWhile isBlank).reverse

def trim (s : String) : String := .ofList (trimChars s.toList)

def trimStartChars (cs : List Char) : List Char := cs.dropWhile isBlank

end LoginRisk.Text
