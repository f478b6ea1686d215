import ScriptedTask.Failure
import ScriptedTask.Storage.Access
import ScriptedTask.Storage.Path
import ScriptedTask.Wire.Task
import ScriptedTask.Yaml.Value

/-! Tasks in files. The ending of a file's name tells how the task is written. -/

namespace ScriptedTask.TaskFile

def isYaml (path : String) : Bool := (Path.extension? path).any ["yaml", "yml"].contains

def decode? (path text : String) : Option Task :=
  if isYaml path then Yaml.Part.ofText? text >>= Task.decode? Yaml.format
  else Json.Part.ofText? text >>= Task.decode? Wire.jsonFormat

/-- The task of a file that could be read, or of none. -/
def ofFile (path : String) (content : Except FileError String) : Except Failure Task :=
  match content with
  | .error problem => .error ⟨"read task " ++ path, [problem.reason]⟩
  | .ok text =>
    match decode? path text with
    | some task => .ok task
    | none => .error ⟨"parse task " ++ path, ["not a task"]⟩

def load {m : Type → Type} [Monad m] (files : FileAccess m) (path : String) : m (Except Failure Task) := do
  return ofFile path (← files.read path)

end ScriptedTask.TaskFile
