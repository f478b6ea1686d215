import ScriptedTask.Worker.Arguments
import ScriptedTask.Worker.Configuration
import ScriptedTask.Worker.FixtureFile
import ScriptedTask.Worker.Preview
import ScriptedTask.Worker.Report

/-! What an invocation of the program prints, and how it ends. -/

namespace ScriptedTask

/-- What is printed, and the failure that the program ends with, if any. -/
structure Conclusion where
  printed : List String := []
  failure : Option Failure := none

namespace Conclusion

def failed (problem : Failure) : Conclusion := { failure := some problem }

def exitCode (conclusion : Conclusion) : UInt32 := if conclusion.failure.isSome then 1 else 0

end Conclusion

namespace Invocation

variable {m : Type → Type} [Monad m]

def loadQueries (files : FileAccess m) (path : Option String) : m (Except Failure (List Query)) :=
  match path with
  | some path => FixtureFile.load files path
  | none => pure (.ok [])

/-- Prints the reports, and fails if any of them tells of a failure. -/
def conclusionOf (reports : List Report) : Conclusion :=
  let failures := reports.countP Report.isFailure
  { printed := reports.map fun report => report.toJson.text
    failure :=
      if failures = 0 then none
      else some ⟨toString failures ++ " of " ++ toString reports.length ++ " task(s) failed", []⟩ }

def run (interpreter : Script.Interpreter) (files : FileAccess m) (config : Configuration)
    (tasks : List String) (variablesPath : String) (fixtures : Option String) : m Conclusion := do
  match ← loadQueries files fixtures with
  | .error problem => return .failed problem
  | .ok queries =>
    let pipeline := Worker.pipeline interpreter config.runSettings files variablesPath queries
    match ← Worker.runFiles pipeline files tasks with
    | .error problem => return .failed problem
    | .ok reports => return conclusionOf reports

def render (files : FileAccess m) (task variablesPath : String) : m Conclusion := do
  match ← TaskFile.load files task with
  | .error problem => return .failed problem
  | .ok task =>
    match ← Preview.ofTask (VariableFile.repository files variablesPath) task with
    | .error problem => return .failed problem
    | .ok preview => return { printed := [preview.toJson.prettyText] }

/-- Carries out an invocation. The configuration must be in order whatever is asked for. -/
def perform (interpreter : Script.Interpreter) (files : FileAccess m) (environment : Environment)
    (invocation : Invocation) : m Conclusion := do
  let path := invocation.config.getD (Configuration.defaultPath environment)
  match ← Configuration.load files environment path with
  | .error problem => return .failed (problem.failure.within "failed to load worker config")
  | .ok config =>
    match invocation.command with
    | some (.run tasks variablesPath fixtures) => run interpreter files config tasks variablesPath fixtures
    | some (.render task variablesPath) => render files task variablesPath
    | none => return .failed ⟨"expected a subcommand (run, render)", []⟩

end Invocation
end ScriptedTask
