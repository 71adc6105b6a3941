import LoginRisk.Command.Arguments
import LoginRisk.Command.Disk
import LoginRisk.Command.Session

/-!
A whole session on a disk. What it leaves there stays, whether or not the session starts.
-/

namespace LoginRisk

abbrev OnDisk := ExceptT SessionError (StateM Disk)

namespace Session

def settingsAt (path : String) : OnDisk Settings := do
  match (← get).read? path with
  | none => settings none
  | some (.text text) => settings (some text)
  | some _ => throw (.unreadable path)

def openLog (path : String) : OnDisk Unit := do
  match (← get).openLog? path with
  | some d => set d
  | none => throw (.log path)

/-- The store that the settings name, and where it has to be written back. -/
def openProfiles (s : StorageSettings) : OnDisk (ProfileStore × Option Location) := do
  let open? (d : Disk) : Option (Disk × ProfileStore × Option Location) := do
    match ← ProfilePlace.ofSettings? s with
    | .values => return (d, .memory, none)
    | .table => return (← d.makeParent s.sqlitePath, .table, none)
    | .file path access =>
      let d ← d.makeParent s.sqlitePath
      let (here, rows) ← d.openProfiles? path access
      return (d.put here (.profiles rows), (ProfilePlace.file path access).store rows, some here)
  match open? (← get) with
  | some (d, store, here) =>
    set d
    return (store, here)
  | none => throw (.storage s.sqlitePath)

def run (world : Settings → Surroundings) (arguments lines : List String) : OnDisk (List Json) := do
  let settings ← settingsAt (Command.configPath arguments)
  openLog settings.logging.file
  let (store, here) ← openProfiles settings.storage
  let d ← get
  let text (path : String) : Option String :=
    match d.read? path with
    | some (.text text) => some text
    | _ => none
  let service ← start settings text store
  let env := world settings
  let A := Analyzers.standard settings env.elapsedMs
  let (service, answers) := Command.answerLines settings A env lines service
  let rows := (finish settings A env service).learning.profiles.rows
  modify fun d =>
    match here with
    | some here => d.put here (.profiles rows)
    | none => d
  return answers

end Session

end LoginRisk
