import LoginRisk.Command.Loop
import LoginRisk.Settings.Limits
import LoginRisk.Settings.Load

/-!
One session of the command loop: from a configuration file to a running service, and from there to the
profiles that are left.
-/

namespace LoginRisk

inductive SessionError where
  | settings (error : LoadError)
  /-- Something is where the settings should be, but no file of settings. -/
  | unreadable (path : String)
  | log (path : String)
  | storage (path : String)
  | indicators (path : String)
  /-- Something larger than memory is asked for. -/
  | memory

namespace SessionError

def message : SessionError → String
  | .settings e => e.message
  | .unreadable path => "cannot read settings " ++ path
  | .log path => "cannot open log " ++ path
  | .storage path => "cannot open profiles " ++ path
  | .indicators path => "cannot read indicators " ++ path
  | .memory => "out of memory"

def exitCode : SessionError → UInt8
  | .memory => 101
  | _ => 1

end SessionError

namespace Session

def settings : Option String → Except SessionError Settings
  | none => .ok {}
  | some text => (Settings.load text).mapError .settings

def analyzers (s : Settings) (readFile : String → Option String) :
    Except SessionError AnalyzerState :=
  match s.threat.indicatorsFile with
  | none => .ok (.initial s)
  | some path =>
    match (readFile path).bind (AnalyzerState.initial s).withIndicators? with
    | some state => .ok state
    | none => .error (.indicators path)

def start (s : Settings) (readFile : String → Option String) (profiles : ProfileStore) :
    Except SessionError (Service AnalyzerState) := do
  let state ← analyzers s readFile
  if !s.embedding.fits then .error .memory
  else
    let service ← (Service.create s state profiles).mapError fun
      | .settings e => .settings (.invalid e)
      | .tooLarge => .memory
    (service.start s).mapError fun _ => .memory

def finish {σ : Type} (settings : Settings) (A : Analyzers σ) (env : Surroundings) (s : Service σ) :
    Service σ :=
  (s.settle settings A env).shutdown settings A env

end Session

end LoginRisk
