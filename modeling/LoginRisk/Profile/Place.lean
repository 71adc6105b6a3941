import LoginRisk.Hash.Sha256
import LoginRisk.Json.Token
import LoginRisk.Profile.Store
import LoginRisk.Settings.Basic

/-!
Where profiles are kept between sessions. A path is taken as it stands, unless it starts with `file:`:
then it is a URI, with `%` escapes and with options after a question mark.
-/

namespace LoginRisk

inductive Access where
  /-- In memory, whatever it is called. -/
  | memory
  | readOnly
  | readWrite
  | create
  deriving DecidableEq, Repr

inductive ProfilePlace where
  | values
  | table
  | file (path : String) (access : Access)
  deriving DecidableEq, Repr

namespace Access

def modes : List (String × Access) :=
  [("ro", .readOnly), ("rw", .readWrite), ("rwc", .create), ("memory", .memory)]

/-- Whether an option may ask for a way of access after another: it may not widen it. -/
def admits : Access → Access → Bool
  | .readOnly, .readWrite | .readOnly, .create | .readWrite, .create => false
  | _, _ => true

def apply (a : Access) (option : String × String) : Option Access :=
  match option with
  | ("mode", value) => (modes.lookup value).filter a.admits
  | ("cache", value) => if ["shared", "private"].contains value then some a else none
  | _ => some a

end Access

structure Uri where
  path : String
  access : Access := .create
  inMemory : Bool := false
  fixed : Bool := false
  deriving DecidableEq, Repr

namespace Uri

def cut (c : Char) (cs : List Char) : List Char × List Char :=
  (cs.takeWhile (· ≠ c), (cs.dropWhile (· ≠ c)).drop 1)

def bytes : List Char → Hash.Bytes
  | [] => []
  | '%' :: a :: b :: rest =>
    match Json.Read.hexValue? a, Json.Read.hexValue? b with
    | some high, some low => UInt8.ofNat (16 * high + low) :: bytes rest
    | _, _ => Hash.utf8 "%" ++ bytes (a :: b :: rest)
  | c :: rest => Hash.utf8 c.toString ++ bytes rest

/-- A part of a URI as text, up to the first zero byte. Bytes that are no UTF-8 stand for the characters
of their values. -/
def decode (cs : List Char) : String :=
  let bs := (bytes cs).takeWhile (· ≠ 0)
  (String.fromUTF8? ⟨bs.toArray⟩).getD (.ofList (bs.map fun b => Char.ofNat b.toNat))

def options (query : List Char) : List (String × String) :=
  ((String.ofList query).splitOn "&").filterMap fun option =>
    let (name, value) := cut '=' option.toList
    if name.isEmpty then none else some (decode name, decode value)

/-- The path after the host, which may only be this one; `none` for another. -/
def withoutHost : List Char → Option (List Char)
  | '/' :: '/' :: rest =>
    if ["", "localhost"].contains (String.ofList (rest.takeWhile (· ≠ '/'))) then
      some (rest.dropWhile (· ≠ '/'))
    else none
  | cs => some cs

/-- The kinds of files that the option `vfs` may name, and whether such a file is one in memory. -/
def fileKinds : List (String × Bool) :=
  [("unix", false), ("unix-excl", false), ("unix-dotfile", false), ("unix-none", false), ("memdb", true)]

/-- Whether the value of an option means yes: a number does unless its lowest byte is zero. -/
def isYes (value : String) : Bool :=
  ["on", "yes", "true"].contains value.toLower ||
    (String.ofList (value.toList.takeWhile Char.isDigit)).toNat?.any fun n =>
      n < 2147483648 && n % 256 ≠ 0

/-- Reads what follows `file:`. Of several options `vfs` the last one counts, of several options
`immutable` the first. -/
def read? (cs : List Char) : Option Uri := do
  let (path, query) := cut '?' (cut '#' (← withoutHost cs)).1
  let options := options query
  return {
    path := decode path
    access := ← options.foldlM Access.apply .create
    inMemory := ← fileKinds.lookup ((options.reverse.lookup "vfs").getD "unix")
    fixed := (options.lookup "immutable").any isYes }

/-- The place that a URI leads to; `none` when it is refused. An empty path is one in memory. A file
that never changes is only read, and a table in memory cannot be read before it is made. The name of a
file in memory has a limit. -/
def place? (u : Uri) : Option ProfilePlace :=
  if u.path = "" || u.path = ":memory:" || u.access = .memory then
    if u.access = .readOnly then none else some .table
  else
    let access := if u.fixed then .readOnly else u.access
    if !u.inMemory then some (.file u.path access)
    else if access = .readOnly || u.path.utf8ByteSize > 1016 then none
    else some .table

end Uri

namespace ProfilePlace

def ofPath? (path : String) : Option ProfilePlace :=
  if path.contains '\x00' then none
  else
    match path.toList with
    | 'f' :: 'i' :: 'l' :: 'e' :: ':' :: rest => (Uri.read? rest).bind Uri.place?
    | _ => Uri.place? { path }

def ofSettings? (s : StorageSettings) : Option ProfilePlace :=
  if s.backend = "sqlite" then ofPath? s.sqlitePath else some .values

def store (rows : List (String × String)) : ProfilePlace → ProfileStore
  | .values => .memory
  | .table => .table
  | .file _ access => ⟨.table rows, { save := access = .readOnly }⟩

end ProfilePlace

def ProfileStore.rows (p : ProfileStore) : List (String × String) :=
  match p.contents with
  | .table rows => rows
  | .memory _ => []

end LoginRisk
