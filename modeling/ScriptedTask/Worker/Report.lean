import ScriptedTask.Pipeline.Echo
import ScriptedTask.Storage.Variables
import ScriptedTask.Wire.Module
import ScriptedTask.Worker.TaskFile

/-! Runs of task files through a pipeline, all at the same time, with a report on each. -/

namespace ScriptedTask

/-- What became of the task of a file. -/
structure Report where
  path : String
  task : Task
  result : Except PipelineError Outcome

namespace Report

def isFailure (report : Report) : Bool :=
  match report.result with
  | .ok _ => false
  | .error _ => true

def origin (report : Report) : List (String × Json) :=
  [("task", .string report.path), ("id", .string report.task.id),
    ("processInstanceId", .string report.task.instanceId)]

def resultMembers (report : Report) : List (String × Json) :=
  match report.result with
  | .ok outcome => [("modules", .array (outcome.modules.map fun entry => entry.document.toJson)),
      ("outputs", .object outcome.outputs)]
  | .error problem => [("stage", .string problem.stage.name), ("error", .string problem.text)]

def toJson (report : Report) : Json := .object (SortedMap.ofList (report.origin ++ report.resultMembers))

end Report

namespace Worker

variable {m : Type → Type} [Monad m]

/-- A pipeline whose handler echoes its inputs, on the variables of a file. -/
def pipeline (interpreter : Script.Interpreter) (settings : RunSettings) (files : FileAccess m)
    (variablesPath : String) (queries : List Query) : Pipeline m where
  handler := Handler.echo
  repository := VariableFile.repository files variablesPath
  interpreter
  settings
  queries
  observe _ _ := pure ()

/-- A task that is under way: it has got as far as storing, or it has failed. -/
structure Started where
  path : String
  task : Task
  prepared : Except PipelineError Prepared

def start (pipeline : Pipeline m) (path : String) (task : Task) : m Started := do
  return ⟨path, task, ← (pipeline.prepare task).run⟩

def finish (pipeline : Pipeline m) (started : Started) : m Report := do
  match started.prepared with
  | .ok prepared => return ⟨started.path, started.task, ← (pipeline.complete started.task prepared).run⟩
  | .error problem => return ⟨started.path, started.task, .error problem⟩

def finishAll (pipeline : Pipeline m) : List Started → m (List Report)
  | [] => return []
  | started :: rest => do
    let report ← finish pipeline started
    return report :: (← finishAll pipeline rest)

/-- How many tasks are under way at the same time, at most. -/
def crowd : Nat := 512

/-- Finishes the first of the tasks under way if they are too many. -/
def relieve (pipeline : Pipeline m) : List Started → m (List Report × List Started)
  | [] => return ([], [])
  | first :: others => do
    if others.length < crowd then return ([], first :: others)
    return ([← finish pipeline first], others)

/-- Runs the tasks of files beside those that are under way. -/
def runBeside (pipeline : Pipeline m) (files : FileAccess m) (underWay : List Started) :
    List String → m (Except Failure (List Report))
  | [] => do return .ok (← finishAll pipeline underWay)
  | path :: rest => do
    match ← TaskFile.load files path with
    | .error problem => do
      let _ ← finishAll pipeline underWay
      return .error problem
    | .ok task => do
      let latest ← start pipeline path task
      let (reports, underWay) ← relieve pipeline (underWay ++ [latest])
      return (← runBeside pipeline files underWay rest).map (reports ++ ·)

/-- Runs the tasks of files at the same time, with a report on each in the order of the files. A file
without a task ends the run without any report, though the tasks that were started go on to their end.
Tasks take turns with each other and with the loading of files as they happen to; here each of them gets
as far as storing when its file is loaded, and stores when the others have got that far, too. -/
def runFiles (pipeline : Pipeline m) (files : FileAccess m) (paths : List String) : m (Except Failure (List Report)) :=
  runBeside pipeline files [] paths

end Worker
end ScriptedTask
