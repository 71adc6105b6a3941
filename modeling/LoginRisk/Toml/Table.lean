import LoginRisk.Json.Basic

/-!
Tables of a TOML document while it is read. A table may be opened by its own header only once, may not
be opened by a header and then extended by dotted keys, and no key may be given twice.
-/

namespace LoginRisk.Toml

inductive TableKind where
  /-- By a header of its own. -/
  | explicit
  /-- By the header of a table inside it. -/
  | implicit
  /-- By dotted keys. -/
  | dotted
  deriving DecidableEq, Repr

inductive Item where
  | value (j : Json)
  | table (kind : TableKind) (items : List (String × Item))
  /-- The tables that repeated headers in double brackets open. -/
  | tables (all : List (List (String × Item)))

abbrev Items := List (String × Item)

inductive DocumentError where
  | malformed
  | repeatedKey (key : String)
  | tooDeep
  deriving DecidableEq, Repr

def DocumentError.message : DocumentError → String
  | .malformed => "malformed document"
  | .repeatedKey key => "repeated key " ++ key
  | .tooDeep => "nested too deeply"

namespace Items

def changeLast (f : Items → Except DocumentError Items) : List Items → Except DocumentError (List Items)
  | [] => .ok []
  | [last] => do return [← f last]
  | first :: rest => do return first :: (← changeLast f rest)

/-- Changes the table at a path of headers, making the tables on the way. -/
def changeAt (f : Items → Except DocumentError Items) : List String → Items → Except DocumentError Items
  | [], items => f items
  | key :: path, items =>
    match items.lookup key with
    | none => do return Assoc.put key (.table .implicit (← changeAt f path [])) items
    | some (.table kind inner) => do return Assoc.put key (.table kind (← changeAt f path inner)) items
    | some (.tables all) => do return Assoc.put key (.tables (← changeLast (changeAt f path) all)) items
    | some (.value _) => .error (.repeatedKey key)

def openTable (key : String) (items : Items) : Except DocumentError Items :=
  match items.lookup key with
  | none => .ok (Assoc.put key (.table .explicit []) items)
  | some (.table .implicit inner) => .ok (Assoc.put key (.table .explicit inner) items)
  | some _ => .error (.repeatedKey key)

def openNext (key : String) (items : Items) : Except DocumentError Items :=
  match items.lookup key with
  | none => .ok (Assoc.put key (.tables [[]]) items)
  | some (.tables all) => .ok (Assoc.put key (.tables (all ++ [[]])) items)
  | some _ => .error (.repeatedKey key)

/-- Gives the key at a dotted path a value. `extensible` says whether dotted keys may add to the table
at hand. -/
def assign (key : String) (j : Json) : (extensible : Bool) → List String → Items →
    Except DocumentError Items
  | extensible, [], items =>
    if extensible && (items.lookup key).isNone then .ok (items ++ [(key, .value j)])
    else .error (.repeatedKey key)
  | _, part :: path, items =>
    match items.lookup part with
    | none => do return Assoc.put part (.table .dotted (← assign key j true path [])) items
    | some (.table .explicit _) | some (.value _) => .error (.repeatedKey part)
    | some (.table kind inner) => do
      return Assoc.put part (.table kind (← assign key j (kind = .dotted) path inner)) items
    | some (.tables all) => do
      return Assoc.put part (.tables (← changeLast (assign key j false path) all)) items

end Items

mutual

def Item.toJson : Item → Json
  | .value j => j
  | .table _ items => .object (itemsToJson items)
  | .tables all => .array (tablesToJson all)

def itemsToJson : List (String × Item) → List (String × Json)
  | [] => []
  | (key, item) :: rest => (key, item.toJson) :: itemsToJson rest

def tablesToJson : List (List (String × Item)) → List Json
  | [] => []
  | items :: rest => .object (itemsToJson items) :: tablesToJson rest

end

end LoginRisk.Toml
