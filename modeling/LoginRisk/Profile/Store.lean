import LoginRisk.Json.Reader
import LoginRisk.Profile.Json

/-!
Where profiles are kept between attempts: values in memory, or a table with one row of text for each
user. A store can be told to fail.
-/

namespace LoginRisk

inductive StoreError where
  | corrupt (userId : String)
  | load
  | save
  | count
  deriving DecidableEq, Repr

def StoreError.message : StoreError → String
  | .corrupt userId => "Corrupt profile row for " ++ userId
  | .load => "load failed: disk gone"
  | .save => "save failed: disk full"
  | .count => "count failed"

structure StoreFaults where
  load : Bool := false
  save : Bool := false
  count : Bool := false
  deriving DecidableEq, Repr

inductive StoreContents where
  | memory (profiles : List (String × Profile))
  | table (rows : List (String × String))

structure ProfileStore where
  contents : StoreContents
  faults : StoreFaults := {}

namespace StoreContents

def readRow (userId row : String) : Except StoreError Profile :=
  match Json.read row with
  | .error _ => .error (.corrupt userId)
  | .ok j => (Profile.ofJson j).mapError fun _ => .corrupt userId

def load (c : StoreContents) (userId : String) : Except StoreError (Option Profile) :=
  match c with
  | .memory profiles => .ok (profiles.lookup userId)
  | .table rows =>
    match rows.lookup userId with
    | none => .ok none
    | some row => (readRow userId row).map some

def save (c : StoreContents) (p : Profile) : StoreContents :=
  match c with
  | .memory profiles => .memory (Assoc.put p.userId p profiles)
  | .table rows => .table (Assoc.put p.userId p.rowText rows)

def count : StoreContents → Nat
  | .memory profiles => profiles.length
  | .table rows => rows.length

end StoreContents

namespace ProfileStore

def memory : ProfileStore := ⟨.memory [], {}⟩

def table : ProfileStore := ⟨.table [], {}⟩

def load (s : ProfileStore) (userId : String) : Except StoreError (Option Profile) :=
  if s.faults.load then .error .load else s.contents.load userId

def save (s : ProfileStore) (p : Profile) : Except StoreError ProfileStore :=
  if s.faults.save then .error .save else .ok { s with contents := s.contents.save p }

def count (s : ProfileStore) : Except StoreError Nat :=
  if s.faults.count then .error .count else .ok s.contents.count

end ProfileStore

end LoginRisk
