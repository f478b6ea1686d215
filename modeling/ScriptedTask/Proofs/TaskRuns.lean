import ScriptedTask.Proofs.ReadBack
import ScriptedTask.Proofs.Schedules
import ScriptedTask.Proofs.Secluded
import ScriptedTask.Script.Interpreter

/-! Runs of task files that stop at a file without a task. There are no reports then, but the tasks of
the files before were started, and what they do stays. -/

namespace ScriptedTask.Worker

open FileTree

variable {pipeline : Pipeline (StateM FileTree)} {start tree later : FileTree} {files : List (String × Task)}
  {bad : String} {back : List String} {problem : Failure} {course next : Course}

/-- How far a run got that was stopped; the tasks go on after the stop. -/
structure Stopped (pipeline : Pipeline (StateM FileTree)) (start : FileTree) (paths : List String) (problem : Failure)
    (course : Course) : Prop where
  schedule : Schedule pipeline (.opening start paths) course
  answers : course.Answers (.error problem)

/-- Preparing tasks leaves all files as they are. -/
def Careful (pipeline : Pipeline (StateM FileTree)) : Prop :=
  ∀ task tree, (conduct (pipeline.prepare task) tree).2 = tree

theorem Careful.prepared (careful : Careful pipeline) {task : Task} {result : Except PipelineError Prepared}
    (ran : conduct (pipeline.prepare task) tree = (result, later)) : later = tree := by
  have kept := careful task tree
  rwa [ran] at kept

theorem careful_pipeline (interpreter : Script.Interpreter) (settings : RunSettings) (path : String) (queries : List Query) :
    Careful (Worker.pipeline interpreter settings FileTree.access path queries) := by
  intro task tree
  obtain ⟨answer, loaded⟩ := VariableFile.load_unchanged path task.instanceId tree
  have modest := modest_pipeline interpreter settings FileTree.access path queries
  obtain ⟨result, settled⟩ := modest.prepare_settled task answer
  rw [settled tree loaded]

/-- What is left to do for a task changes nothing. -/
def Slot.Idle (pipeline : Pipeline (StateM FileTree)) (tree : FileTree) : Slot → Prop
  | .loaded _ task => (conduct (pipeline.execute task) tree).2 = tree
  | .prepared _ task made => (conduct (pipeline.complete task made) tree).2 = tree
  | .done _ => True

theorem Moves.idle {slot moved : Slot} (moves : Moves pipeline tree slot later moved) (careful : Careful pipeline)
    (idle : slot.Idle pipeline tree) : later = tree ∧ moved.Idle pipeline tree := by
  cases moves with
  | prepare ran =>
    obtain rfl : later = tree := careful.prepared ran
    rw [Slot.Idle, conduct_execute_ok ran] at idle
    exact ⟨rfl, idle⟩
  | fail ran => exact ⟨careful.prepared ran, trivial⟩
  | complete ran =>
    rw [Slot.Idle, ran] at idle
    exact ⟨idle, trivial⟩

/-- All files are as in the beginning, and the tasks that were started will not change that. -/
structure AsBefore (pipeline : Pipeline (StateM FileTree)) (start : FileTree) (files : List (String × Task)) (bad : String)
    (back : List String) (course : Course) : Prop where
  tree : course.tree = start
  idle : ∀ slot ∈ course.begun, slot.Idle pipeline start
  waiting : ∃ ahead : List (String × Task), (∀ file ∈ ahead, file ∈ files) ∧ course.waiting = ahead.map Prod.fst ++ bad :: back

section Keeping

variable (careful : Careful pipeline) (loadable : ∀ file ∈ files, TaskFile.ofFile file.1 (start.read file.1) = .ok file.2)
  (unloadable : TaskFile.ofFile bad (start.read bad) = .error problem)
  (idle : ∀ file ∈ files, (conduct (pipeline.execute file.2) start).2 = start)

include careful loadable unloadable idle

theorem AsBefore.step (before : AsBefore pipeline start files bad back course) (step : Step pipeline course next) :
    AsBefore pipeline start files bad back next := by
  obtain ⟨same, slots, ahead, inFiles, waiting⟩ := before
  cases step with
  | @load _ _ path task _ loaded =>
    subst same
    cases ahead with
    | nil =>
      -- The next file is the bad one, which no task can be loaded from.
      cases waiting
      rw [unloadable] at loaded
      cases loaded
    | cons file rest =>
      cases waiting
      rw [List.forall_mem_cons] at inFiles
      rw [loadable file inFiles.1] at loaded
      cases loaded
      refine ⟨rfl, List.forall_mem_append.mpr ⟨slots, ?_⟩, rest, inFiles.2, rfl⟩
      exact List.forall_mem_singleton.mpr (idle file inFiles.1)
  | stop _ => exact ⟨same, slots, ahead, inFiles, waiting⟩
  | move moves =>
    subst same
    rw [List.forall_mem_append, List.forall_mem_cons] at slots
    obtain ⟨rfl, moved⟩ := moves.idle careful slots.2.1
    refine ⟨rfl, ?_, ahead, inFiles, waiting⟩
    rw [List.forall_mem_append, List.forall_mem_cons]
    exact ⟨slots.1, moved, slots.2.2⟩

theorem AsBefore.of_schedule (schedule : Schedule pipeline (.opening start (files.map Prod.fst ++ bad :: back)) course) :
    AsBefore pipeline start files bad back course := by
  induction schedule with
  | refl => exact ⟨rfl, nofun, files, fun _ member => member, rfl⟩
  | tail _ step before => exact before.step careful loadable unloadable idle step

end Keeping

section Stops

variable (loadable : ∀ file ∈ files, TaskFile.ofFile file.1 (start.read file.1) = .ok file.2)
  (unloadable : TaskFile.ofFile bad (start.read bad) = .error problem)

include loadable unloadable

/-- All tasks before the bad file are started, and none of them was given a turn until the stop. -/
theorem stopped_at_once : Stopped pipeline start (files.map Prod.fst ++ bad :: back) problem
    ⟨start, files.map (fun file => .loaded file.1 file.2), bad :: back, some problem⟩ :=
  ⟨(schedule_loaded [] loadable).tail (.stop unloadable), .stopped⟩

/-- One of them is given its turns after the stop. -/
theorem stopped_with_effect {file : String × Task} (member : file ∈ files) :
    ∃ course, Stopped pipeline start (files.map Prod.fst ++ bad :: back) problem course ∧
      course.tree = (conduct (pipeline.execute file.2) start).2 := by
  obtain ⟨schedule, -⟩ : Stopped pipeline start (files.map Prod.fst ++ bad :: back) problem _ :=
    stopped_at_once loadable unloadable
  obtain ⟨first, last, whole⟩ := List.append_of_mem member
  have slots : files.map (fun file => Slot.loaded file.1 file.2) = first.map (fun file => Slot.loaded file.1 file.2) ++
      .loaded file.1 file.2 :: last.map fun file => Slot.loaded file.1 file.2 := by
    rw [whole, List.map_append, List.map_cons]
  rw [slots] at schedule
  rcases ran : conduct (pipeline.execute file.2) start with ⟨result, later⟩
  exact ⟨_, ⟨schedule.trans (schedule_execute ran), .stopped⟩, rfl⟩

end Stops

/-- What a run of task files comes to of which one holds no task. -/
structure Unreported (pipeline : Pipeline (StateM FileTree)) (variablesPath : String) (start : FileTree)
    (files : List (String × Task)) (bad : String) (back : List String) (problem : Failure) : Prop where
  /-- If there are reports, then there is one for every file; no file may be left out. -/
  complete : ∀ course reports, Schedule pipeline (.opening start (files.map Prod.fst ++ bad :: back)) course →
    course.Answers (.ok reports) → reports.map Report.path = files.map Prod.fst ++ bad :: back
  /-- What the program does is one of the courses. -/
  among : ∃ course, Schedule pipeline (.opening start (files.map Prod.fst ++ bad :: back)) course ∧
    course.tree = ((runFiles pipeline FileTree.access (files.map Prod.fst ++ bad :: back)).run start).2 ∧
    course.Answers ((runFiles pipeline FileTree.access (files.map Prod.fst ++ bad :: back)).run start).1
  /-- A stop is sure to leave all files as they are just if each of the tasks before would do so alone. -/
  spares : (∀ reason course, Stopped pipeline start (files.map Prod.fst ++ bad :: back) reason course → course.tree = start) ↔
    ∀ file ∈ files, (conduct (pipeline.execute file.2) start).2 = start
  /-- It may leave them as they are in any case, as the tasks may not have been given a turn. -/
  maySpare : ∃ course, Stopped pipeline start (files.map Prod.fst ++ bad :: back) problem course ∧ course.tree = start
  /-- It may leave them as any one of the tasks before leaves them, the file of variables included. -/
  mayChange : ∀ file ∈ files, ∃ course, Stopped pipeline start (files.map Prod.fst ++ bad :: back) problem course ∧
    course.tree = (conduct (pipeline.execute file.2) start).2
  /-- So the file of variables is sure to be as before only if each of the tasks leaves it so. -/
  variableFile : (∀ course, Stopped pipeline start (files.map Prod.fst ++ bad :: back) problem course →
      course.tree.read variablesPath = start.read variablesPath) →
    ∀ file ∈ files, (conduct (pipeline.execute file.2) start).2.read variablesPath = start.read variablesPath

/-- A run stops at a file that holds no task, without a report. Until then the tasks of the files before
were started, and whatever they do counts. -/
theorem run_stops_without_reports {interpreter : Script.Interpreter} {settings : RunSettings} {queries : List Query}
    {variablesPath : String} {start : FileTree} {files : List (String × Task)} {bad : String} {problem : Failure}
    (loadable : ∀ file ∈ files, TaskFile.ofFile file.1 (start.read file.1) = .ok file.2)
    (unloadable : TaskFile.ofFile bad (start.read bad) = .error problem) (back : List String) :
    Unreported (Worker.pipeline interpreter settings FileTree.access variablesPath queries) variablesPath start files bad
      back problem where
  complete course reports schedule answers := answers.path_eq.trans schedule.paths_eq
  among := runFiles_schedule _ _ _
  spares := by
    constructor
    · intro spared file member
      obtain ⟨course, stopped, ended⟩ := stopped_with_effect loadable unloadable member
      exact ended.symm.trans (spared problem course stopped)
    · intro idle reason course stopped
      have careful := careful_pipeline interpreter settings variablesPath queries
      exact (AsBefore.of_schedule careful loadable unloadable idle stopped.schedule).tree
  maySpare := ⟨_, stopped_at_once loadable unloadable, rfl⟩
  mayChange file member := stopped_with_effect loadable unloadable member
  variableFile spared file member := by
    obtain ⟨course, stopped, ended⟩ := stopped_with_effect loadable unloadable member
    rw [← ended]
    exact spared course stopped

/-- A task that writes a variable. -/
def writer : String :=
  "\x7b\"id\":\"t\",\"processInstanceId\":\"i\"," ++
    "\"variables\":\x7b\"prescript\":\x7b\"value\":\"variables.write('seen', true);\"\x7d\x7d\x7d"

def oneWriter : FileTree := ⟨SortedMap.ofList [("task.json", .file writer)], []⟩

/-- A worker without queries. -/
def plainWorker : Pipeline (StateM FileTree) := Worker.pipeline Script.interpret {} FileTree.access "variables.json" []

/-- A writer stands before a file that is missing. -/
theorem writer_before_missing_is_unreported : ∃ task problem,
    TaskFile.ofFile "task.json" (oneWriter.read "task.json") = .ok task ∧
    TaskFile.ofFile "missing.json" (oneWriter.read "missing.json") = .error problem ∧
    Unreported plainWorker "variables.json" oneWriter [("task.json", task)] "missing.json" [] problem := by
  obtain ⟨task, loaded⟩ := isOk_iff.mp
    (show (TaskFile.ofFile "task.json" (oneWriter.read "task.json")).isOk = true by decide +kernel)
  have missing : oneWriter.read "missing.json" = .error noEntry := rfl
  refine ⟨task, _, loaded, by rw [missing]; rfl, ?_⟩
  exact run_stops_without_reports (List.forall_mem_singleton.mpr loaded) (by rw [missing]; rfl) []

/-- The run of a task and of a file that is missing. -/
def unreported : Except Failure (List Report) × FileTree :=
  (runFiles plainWorker FileTree.access ["task.json", "missing.json"]).run oneWriter

set_option maxRecDepth 100000 in
/-- There are no reports, and yet there are variables where there were none. -/
theorem unreported_task_takes_effect :
    (match unreported.1 with | .ok _ => none | .error problem => some problem.message) = some "read task missing.json" ∧
      (oneWriter.read "variables.json").toOption = none ∧
      (unreported.2.read "variables.json").toOption = some "\x7b\n  \"i\": \x7b\n    \"seen\": true\n  \x7d\n\x7d" := by
  decide +kernel

end ScriptedTask.Worker
