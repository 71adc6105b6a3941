/-!
Sets of code points, stored as the ascending list of the points where membership changes.
-/

namespace LoginRisk.Text

/-- A set of code points. Membership is false below the first change and flips at each change. -/
structure CodePointSet where
  changes : List Nat

/-- Whether an odd number of changes lie at or below `n`, read until the first one above it. -/
def oddChanges : List Nat → Nat → Bool
  | [], _ => false
  | b :: bs, n => if n < b then false else !oddChanges bs n

def CodePointSet.contains (s : CodePointSet) (c : Char) : Bool := oddChanges s.changes c.toNat

end LoginRisk.Text
