/-!
Lists of entries with keys, read as finite maps.
-/

namespace LoginRisk.Assoc

variable {κ α : Type}

/-- Replaces the value of a key where it stands, or adds the entry at the end. -/
def put [BEq κ] (key : κ) (value : α) : List (κ × α) → List (κ × α)
  | [] => [(key, value)]
  | entry :: rest => if entry.1 == key then (key, value) :: rest else entry :: put key value rest

/-- Puts an entry at its place in ascending order of keys, replacing one of the same key. -/
def putSorted (key : String) (value : α) : List (String × α) → List (String × α)
  | [] => [(key, value)]
  | entry :: rest =>
    if key < entry.1 then (key, value) :: entry :: rest
    else if key = entry.1 then (key, value) :: rest
    else entry :: putSorted key value rest

def tally (key : String) (counts : List (String × Nat)) : List (String × Nat) :=
  putSorted key ((counts.lookup key).getD 0 + 1) counts

/-- The entries in ascending order of keys, the last of a repeated key kept. -/
def sorted (entries : List (String × α)) : List (String × α) :=
  entries.foldl (fun done entry => putSorted entry.1 entry.2 done) []

end LoginRisk.Assoc
