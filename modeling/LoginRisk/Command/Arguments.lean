/-!
The arguments of the command line.
-/

namespace LoginRisk.Command

def defaultConfigPath : String := "/etc/loginguard/loginguard.toml"

/-- The path after the last `--config` that has one, `path` when there is none. -/
def configPathAfter (path : String) : List String → String
  | "--config" :: given :: rest => configPathAfter given rest
  | _ :: rest => configPathAfter path rest
  | [] => path

def configPath (arguments : List String) : String := configPathAfter defaultConfigPath arguments

end LoginRisk.Command
