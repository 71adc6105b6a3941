import LoginRisk.Assoc
import LoginRisk.Profile.Place

/-!
Directories and files as far as a session looks at them, and where paths lead.
-/

namespace LoginRisk

inductive DiskEntry where
  | directory
  | text (content : String)
  /-- A file that a session has added lines to, which is no longer what it was. -/
  | log
  | profiles (rows : List (String × String))

/-- A place on a disk: the names that lead to it, the last one first. -/
abbrev Location := List String

structure Disk where
  /-- Where paths start that do not start at the root. -/
  home : Location
  entries : List (Location × DiskEntry)

namespace Disk

variable (d : Disk)

def find? : Location → Option DiskEntry
  | [] => some .directory
  | here => d.entries.lookup here

def put (here : Location) (e : DiskEntry) : Disk := { d with entries := Assoc.put here e d.entries }

def isDirectory (here : Location) : Bool :=
  match d.find? here with
  | some .directory => true
  | _ => false

def next (here : Location) (name : String) : Location :=
  if name = ".." then here.tail
  else if name = "" || name = "." then here
  else name :: here

def start (path : String) : Location := if path.startsWith "/" then [] else d.home

def names (path : String) : List String := (path.splitOn "/").filter fun n => n ≠ "" && n ≠ "."

def isName (name : String) : Bool := name.utf8ByteSize ≤ 255 && !name.contains '\x00'

def isPath (path : String) : Bool := path.utf8ByteSize < 4096

/-- The location of what a path leads to, if there is anything. Every name before the last has to be
that of a directory. -/
def resolve? (path : String) : Option Location :=
  if path = "" || !isPath path then none
  else
    (path.splitOn "/").foldlM
      (fun here name =>
        if d.isDirectory here && (d.find? (next here name)).isSome then some (next here name)
        else none)
      (d.start path)

def read? (path : String) : Option DiskEntry := (d.resolve? path).bind d.find?

/-- Makes the directories on the way; `none` when there is a file on it. -/
def makeDirectories (d : Disk) (here : Location) : List String → Option (Disk × Location)
  | [] => some (d, here)
  | name :: rest =>
    let there := next here name
    match d.find? there with
    | none =>
      if isName name then (d.put there .directory).makeDirectories there rest else none
    | some .directory => d.makeDirectories there rest
    | some _ => none

def trimmed (parts : List String) : List String :=
  (parts.reverse.dropWhile fun n => n = "" || n = ".").reverse

def parent (path : String) : String :=
  "/".intercalate (trimmed (trimmed (path.splitOn "/")).dropLast)

def enterParent (path : String) : Option (Disk × Location) :=
  if isPath (parent path) then d.makeDirectories (d.start path) (names path).dropLast else none

def makeParent (path : String) : Option Disk := (d.enterParent path).map Prod.fst

/-- Opens a log to add lines to; `none` when the path does not end with the name of a file. -/
def openLog? (path : String) : Option Disk := do
  if path = "" then return d
  let (d, parent) ← d.enterParent path
  let name ← (path.splitOn "/").getLast?
  let log := next parent name
  if !isPath path || name = ".." || !isName name || d.isDirectory log then none
  else return d.put log .log

def length (here : Location) : Nat := here.foldl (fun n name => n + 1 + name.utf8ByteSize) 0

/-- The location of a file of profiles: `..` takes back the name before it, whether or not there is
such a directory. On the way there is a limit to the length. -/
def profilesAt? (path : String) : Option Location :=
  (names path).foldlM
    (fun here name =>
      if name = ".." then some here.tail
      else if ((d.find? here).isNone || d.isDirectory here) && length (name :: here) < 512 then
        some (name :: here)
      else none)
    (d.start path)

/-- Whether there is room for the journal that is kept beside a file of profiles while it is written,
under the name of the file and eight bytes more. -/
def fitsJournal : Location → Bool
  | [] => false
  | name :: parent => isName (name ++ "-journal") && length ((name ++ "-journal") :: parent) ≤ 512

/-- Opens a file of profiles: its location and rows. An empty file holds no rows. -/
def openProfiles? (path : String) (access : Access) : Option (Location × List (String × String)) := do
  let here ← d.profilesAt? path
  if !fitsJournal here then none else
  match d.find? here with
  | some (.profiles rows) => return (here, rows)
  | some (.text "") => return (here, [])
  | some _ => none
  | none =>
    if access = .create && d.isDirectory here.tail then return (here, []) else none

end Disk

end LoginRisk
