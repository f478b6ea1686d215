import ScriptedTask.Storage.Path
import ScriptedTask.Text.Blank

/-! The variables of the environment, and the paths that depend on them. -/

namespace ScriptedTask

/-- What a variable is set to. -/
abbrev Environment := String → Option String

namespace Environment

/-- The home directory that `HOME` names. The entry of the user in the system's own list, which would
stand in when it names none, is not looked at. -/
def homeDirectory? (environment : Environment) : Option String := (environment "HOME").filter (· ≠ "")

/-- Where configuration belongs; a path that is not absolute does not count. -/
def configDirectory? (environment : Environment) : Option String :=
  ((environment "XDG_CONFIG_HOME").filter Path.isAbsolute).orElse fun () =>
    environment.homeDirectory?.map fun home => Path.join home ".config"

/-- What follows the home directory in a path that starts with a tilde. -/
def afterTilde? (path : List Char) : Option (List Char) :=
  match path with
  | '~' :: '/' :: rest | '~' :: '\\' :: rest => some rest
  | _ => none

/-- A path without blanks at its ends and with its leading tilde replaced by the home directory. -/
def expandHome (environment : Environment) (path : String) : String :=
  let home := environment.homeDirectory?.getD "~"
  let trimmed := Text.trim path
  if trimmed = "~" then home
  else
    match afterTilde? trimmed.toList with
    | some rest => Path.join home (String.ofList rest)
    | none => trimmed

/-- The path that a variable names, or else a file in the configuration directory. -/
def configuredPath (environment : Environment) (name fileName : String) : String :=
  match (environment name).filter (!Text.isBlankText ·) with
  | some path => environment.expandHome path
  | none => Path.join (Path.join (environment.configDirectory?.getD ".") "taskwrap") fileName

end Environment
end ScriptedTask
