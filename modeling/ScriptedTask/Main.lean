import ScriptedTask.Script.Interpreter
import ScriptedTask.Worker.Invocation

/-! The program: it reads its arguments, the environment and files, prints what an invocation
prints, and ends with its exit code. -/

namespace ScriptedTask.Program

/-- What went wrong with a file. -/
def fileErrorOf (problem : IO.Error) : FileError :=
  match problem with
  | .noFileOrDirectory .. => .missing (toString problem)
  | _ => .other (toString problem)

def attempted {α : Type} (action : IO α) : IO (Except FileError α) := do
  match ← action.toBaseIO with
  | .ok value => return .ok value
  | .error problem => return .error (fileErrorOf problem)

def diskAccess : FileAccess IO where
  read path := attempted (IO.FS.readFile path)
  write path text := attempted (IO.FS.writeFile path text)
  makeDirectories path := attempted (IO.FS.createDirAll path)
  rename source target := attempted (IO.FS.rename source target)

/-- The variables that the program looks at. -/
def readEnvironment : IO Environment := do
  let settings ← Configuration.variableNames.mapM fun name => return (name, ← IO.getEnv name)
  return fun name => (settings.lookup name).join

def conclude (conclusion : Conclusion) : IO UInt32 := do
  for text in conclusion.printed do
    IO.println text
  match conclusion.failure with
  | some problem => IO.eprintln problem.report
  | none => pure ()
  return conclusion.exitCode

def start (arguments : List String) : IO UInt32 := do
  match Arguments.read arguments with
  | .ok invocation =>
    conclude (← invocation.perform Script.interpret diskAccess (← readEnvironment))
  | .error .help => do
    for line in Arguments.usage do
      IO.println line
    return 0
  | .error .misuse => do
    for line in Arguments.usage do
      IO.eprintln line
    return 2

end ScriptedTask.Program

def main (arguments : List String) : IO UInt32 := ScriptedTask.Program.start arguments
