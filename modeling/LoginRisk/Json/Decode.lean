import LoginRisk.Json.Basic
import LoginRisk.Number.Binary
import LoginRisk.Time.Rfc3339
import LoginRisk.Net.Address

/-!
Typed values from JSON. Whole-number fields take only whole numbers in range, float fields take any
number, and a record may be given as an object of its fields or as an array of them in order.
-/

namespace LoginRisk.Json

inductive DecodeError where
  | missing (field : String)
  | repeated (field : String)
  | expected (what : String)
  deriving DecidableEq, Repr

def DecodeError.message : DecodeError → String
  | .missing field => "missing field " ++ field
  | .repeated field => "repeated field " ++ field
  | .expected what => "expected " ++ what

abbrev Decoder (α : Type) := Json → Except DecodeError α

namespace Decode

def bool : Decoder Bool
  | .bool b => .ok b
  | _ => .error (.expected "a boolean")

def string : Decoder String
  | .string s => .ok s
  | _ => .error (.expected "a string")

def int (low high : Int) : Decoder Int
  | .number (.whole n) => if low ≤ n && n ≤ high then .ok n else .error (.expected "a smaller number")
  | _ => .error (.expected "a whole number")

def nat (bits : Nat) : Decoder Nat := fun j => (int 0 (Number.twoTo bits - 1) j).map Int.toNat

def uint64 : Decoder UInt64 := fun j => (nat 64 j).map UInt64.ofNat

def int64 : Decoder Int := int (-0x8000000000000000) 0x7fffffffffffffff

def float : Decoder Float
  | .number n => .ok n.toFloat
  | _ => .error (.expected "a number")

/-- A number rounded to 32 bits; a whole number is rounded once. -/
def float32 : Decoder Float32
  | .number (.whole n) =>
    .ok (.ofBits (.ofNat (Number.binary32.encode (.finite (n < 0) n.natAbs 0))))
  | .number (.float x) => .ok (Number.narrow x)
  | _ => .error (.expected "a number")

def instant : Decoder Instant
  | .string s =>
    match Instant.read? s with
    | some t => .ok t
    | none => .error (.expected "an instant")
  | _ => .error (.expected "an instant")

def address : Decoder Address
  | .string s =>
    match Address.read? s with
    | some a => .ok a
    | none => .error (.expected "an IP address")
  | _ => .error (.expected "an IP address")

def list {α : Type} (item : Decoder α) : Decoder (List α)
  | .array items => items.mapM item
  | _ => .error (.expected "an array")

def option {α : Type} (some_ : Decoder α) : Decoder (Option α)
  | .null => .ok none
  | j => (some_ j).map some

/-- A map from names to values, in ascending order of names, the last of repeated names kept. -/
def map {α : Type} (value : Decoder α) : Decoder (List (String × α))
  | .object members =>
    (Assoc.sorted members).mapM fun m =>
      (value m.2).map fun v => (m.1, v)
  | _ => .error (.expected "an object")

/-- One of several names; a name may also be written as an object with a `null` under it. -/
def name {α : Type} (names : List (String × α)) : Decoder α :=
  let find (s : String) : Except DecodeError α :=
    match names.lookup s with
    | some a => .ok a
    | none => .error (.expected "a known name")
  fun
  | .string s => find s
  | .object [(s, .null)] => find s
  | _ => .error (.expected "a known name")

end Decode

structure Fields where
  /-- Whether the record was an array, where an absent field is always missing. -/
  positional : Bool
  given : List (String × Json)

namespace Fields

/-- The given fields among those of a record: no field twice, and no more items than fields. -/
def of (names : List String) : Decoder Fields
  | .object members =>
    let given := members.filter fun m => names.contains m.1
    match given.find? fun m => 1 < (given.map Prod.fst).count m.1 with
    | some m => .error (.repeated m.1)
    | none => .ok ⟨false, given⟩
  | .array items =>
    if names.length < items.length then .error (.expected "fewer items")
    else .ok ⟨true, names.zip items⟩
  | _ => .error (.expected "a record")

variable {α : Type} (f : Fields) (name : String)

def required (value : Decoder α) : Except DecodeError α :=
  match f.given.lookup name with
  | some j => value j
  | none => .error (.missing name)

def withDefault (value : Decoder α) (default : α) : Except DecodeError α :=
  match f.given.lookup name with
  | some j => value j
  | none => .ok default

def optional (value : Decoder α) : Except DecodeError (Option α) :=
  f.withDefault name (Decode.option value) none

/-- A field that may be `null`, and in an object also absent. -/
def nullable (value : Decoder α) : Except DecodeError (Option α) :=
  if f.positional then f.required name (Decode.option value) else f.optional name value

end Fields

end LoginRisk.Json
