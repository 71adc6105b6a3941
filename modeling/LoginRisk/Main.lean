import LoginRisk.Command.Run
import LoginRisk.Json.Writer
import Std.Time.DateTime.Timestamp

/-!
The command line: reads one command from each line of standard input and writes one answer to standard
output. Profiles are kept in a file of rows between sessions.
-/

namespace LoginRisk.Main

def now : IO Instant := do
  let t ← Std.Time.Timestamp.now
  let nanos := t.toNanosecondsSinceUnixEpoch.toInt
  return ⟨nanos / 1000000000, (nanos % 1000000000).toNat⟩

/-- What the system says when a path leads through something that is no directory. -/
def notADirectory : UInt32 := 20

def readFile? (path : String) : IO (Option String) := do
  try
    return some (← IO.FS.readFile path)
  catch
  | .noFileOrDirectory .. => return none
  | .inappropriateType name code details =>
    if code = notADirectory then return none else throw (.inappropriateType name code details)
  | e => throw e

def pathOf (path : String) (names : List String) : String :=
  (if path.startsWith "/" then "/" else "") ++ "/".intercalate names

def makeParent (path : String) : IO Unit := do
  let names := (Disk.names path).dropLast
  if !names.isEmpty then IO.FS.createDirAll (pathOf path names)

def openLog (path : String) : IO Unit := do
  if path ≠ "" then
    makeParent path
    discard (IO.FS.Handle.mk path .append)

def tidy (path : String) : String := pathOf path (Disk.names path)

def saveRows (path : String) (rows : List (String × String)) : IO Unit :=
  IO.FS.writeFile (tidy path) (Json.object (rows.map fun r => (r.1, .string r.2))).compact

/-- The rows of a file of profiles, none when it is not there yet and may be made. -/
def loadRows (path : String) (access : Access) : IO (List (String × String)) := do
  match ← readFile? (tidy path) with
  | none =>
    if access = .create then
      saveRows path []
      return []
    else throw (IO.userError "no such file")
  | some text =>
    match Json.read text with
    | .error e => throw (IO.userError e.message)
    | .ok j =>
      match Json.Decode.map Json.Decode.string j with
      | .error e => throw (IO.userError e.message)
      | .ok rows => return rows

def openPlace (s : StorageSettings) : IO (ProfilePlace × List (String × String)) := do
  match ProfilePlace.ofSettings? s with
  | none => throw (IO.userError "no such place")
  | some .values => return (.values, [])
  | some .table =>
    makeParent s.sqlitePath
    return (.table, [])
  | some (.file path access) =>
    makeParent s.sqlitePath
    return (.file path access, ← loadRows path access)

/-- What surrounds one command. Durations are not measured and count as zero. -/
def surroundings (secret : Hash.Bytes) : IO Surroundings := do
  return { now := ← now, clock := ← IO.monoMsNow, elapsedMs := 0.0, secret }

/-- Answers the lines of standard input up to its end or to the first that is no text. The timer of the
service follows the clock. -/
partial def serve (settings : Settings) (A : Analyzers AnalyzerState) (secret : Hash.Bytes)
    (stdin stdout : IO.FS.Stream) (startedAt : Nat) (s : Service AnalyzerState) :
    IO (Service AnalyzerState) := do
  let line ← try stdin.getLine catch _ => pure ""
  if line.isEmpty then return s
  let env ← surroundings secret
  let s := s.advance settings A env (env.clock - startedAt - s.timerMs)
  let (s, answer) := Command.answerLine settings A env line s
  match answer with
  | none => pure ()
  | some j =>
    stdout.putStr (Command.written j)
    stdout.flush
  serve settings A secret stdin stdout startedAt (s.settle settings A env)

def session (arguments : List String) : IO (Except SessionError Unit) := do
  let file ← readFile? (Command.configPath arguments)
  match Session.settings file with
  | .error e => return .error e
  | .ok settings =>
    try openLog settings.logging.file
    catch _ => return .error (.log settings.logging.file)
    let opened ← try pure (some (← openPlace settings.storage)) catch _ => pure none
    let some (place, rows) := opened | return .error (.storage settings.storage.sqlitePath)
    let indicators ←
      match settings.threat.indicatorsFile with
      | none => pure none
      | some path => try readFile? path catch _ => pure none
    match Session.start settings (fun _ => indicators) (place.store rows) with
    | .error e => return .error e
    | .ok service =>
      let key := settings.cache.keySecret
      let secret ←
        if key = "" then do
          let bytes ← IO.getRandomBytes 32
          pure bytes.toList
        else pure (Hash.utf8 key)
      let A := Analyzers.standard settings 0.0
      let startedAt ← IO.monoMsNow
      let done ← serve settings A secret (← IO.getStdin) (← IO.getStdout) startedAt service
      let done := Session.finish settings A (← surroundings secret) done
      match place with
      | .file path .create | .file path .readWrite => saveRows path done.learning.profiles.rows
      | _ => pure ()
      return .ok ()

end LoginRisk.Main

def main (arguments : List String) : IO UInt32 := do
  match ← LoginRisk.Main.session arguments with
  | .ok () => return 0
  | .error e =>
    IO.eprintln e.message
    return e.exitCode.toUInt32
