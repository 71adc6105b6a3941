import LoginRisk.Assoc

/-!
JSON values. Whole numbers and floating-point numbers are kept apart, and the members of an object
stay in the order in which they were written, repeated names included.
-/

namespace LoginRisk

/-- A JSON number: whole numbers between `-2 ^ 63` and `2 ^ 64 - 1` are exact, all others floats. -/
inductive JsonNumber where
  | whole (n : Int)
  | float (x : Float)

inductive Json where
  | null
  | bool (b : Bool)
  | number (n : JsonNumber)
  | string (s : String)
  | array (items : List Json)
  | object (members : List (String × Json))

instance : Inhabited Json := ⟨.null⟩

namespace JsonNumber

def toFloat : JsonNumber → Float
  | .whole n => Float.ofInt n
  | .float x => x

end JsonNumber

namespace Json

def nat (n : Nat) : Json := .number (.whole n)

def int (n : Int) : Json := .number (.whole n)

def float (x : Float) : Json := .number (.float x)

def strings (ss : List String) : Json := .array (ss.map .string)

def option {α : Type} (f : α → Json) : Option α → Json
  | none => .null
  | some a => f a

/-- The last member of a given name: where a name is repeated, the last one counts. -/
def member? (members : List (String × Json)) (name : String) : Option Json :=
  members.foldl (fun found m => if m.1 == name then some m.2 else found) none

def get? (j : Json) (name : String) : Option Json :=
  match j with
  | .object members => member? members name
  | _ => none

mutual

/-- The value with the members of each object in ascending order of names, the last of repeated
names kept. -/
def sorted : Json → Json
  | .array items => .array (sortedItems items)
  | .object members => .object (sortedMembers members [])
  | j => j

def sortedItems : List Json → List Json
  | [] => []
  | j :: rest => j.sorted :: sortedItems rest

def sortedMembers : List (String × Json) → List (String × Json) → List (String × Json)
  | [], done => done
  | (name, value) :: rest, done => sortedMembers rest (Assoc.putSorted name value.sorted done)

end

end Json

end LoginRisk
