import Mathlib.Logic.Relation
import ScriptedTask.Proofs.Running
import ScriptedTask.Storage.Tree
import ScriptedTask.Worker.Report

/-! Courses that a run of task files can take. The files are loaded in their order, while the tasks
that were started take turns with each other and with the loading as they happen to. A file without a
task stops the loading, but not the tasks. A document lets in one reader or writer at a time and scripts
touch no file, so a task has two turns: until it stores, and storing. -/

namespace ScriptedTask

/-- What an invocation comes to if its changes can be stored. -/
def Prepared.outcome (prepared : Prepared) : Outcome := { modules := prepared.modules, outputs := prepared.outputs }

namespace Worker

open FileTree

/-- How far a task that was started is. -/
inductive Slot where
  | loaded (path : String) (task : Task)
  /-- The scripts have run, and nothing is stored yet. -/
  | prepared (path : String) (task : Task) (prepared : Prepared)
  | done (report : Report)

def Slot.path : Slot → String
  | .loaded path _ => path
  | .prepared path _ _ => path
  | .done report => report.path

/-- One thing that is done for a task while no other task is looked after. -/
inductive Moves (pipeline : Pipeline (StateM FileTree)) : FileTree → Slot → FileTree → Slot → Prop
  | prepare {tree later : FileTree} {path : String} {task : Task} {prepared : Prepared}
      (ran : conduct (pipeline.prepare task) tree = (.ok prepared, later)) :
      Moves pipeline tree (.loaded path task) later (.prepared path task prepared)
  | fail {tree later : FileTree} {path : String} {task : Task} {problem : PipelineError}
      (ran : conduct (pipeline.prepare task) tree = (.error problem, later)) :
      Moves pipeline tree (.loaded path task) later (.done ⟨path, task, .error problem⟩)
  | complete {tree later : FileTree} {path : String} {task : Task} {prepared : Prepared}
      {result : Except PipelineError Outcome} (ran : conduct (pipeline.complete task prepared) tree = (result, later)) :
      Moves pipeline tree (.prepared path task prepared) later (.done ⟨path, task, result⟩)

/-- How far a run of task files is. -/
structure Course where
  tree : FileTree
  /-- The tasks that were started, in the order of their files. -/
  begun : List Slot
  waiting : List String
  /-- Why no more files are loaded. -/
  stopped : Option Failure

namespace Course

/-- No file is loaded yet. -/
def opening (tree : FileTree) (paths : List String) : Course := ⟨tree, [], paths, none⟩

def paths (course : Course) : List String := course.begun.map Slot.path ++ course.waiting

/-- What a run is answered with: the reports when all of them are there, or the reason of a stop, which
waits for no task. -/
inductive Answers : Course → Except Failure (List Report) → Prop
  | reports {tree : FileTree} {reports : List Report} : Answers ⟨tree, reports.map .done, [], none⟩ (.ok reports)
  | stopped {tree : FileTree} {begun : List Slot} {waiting : List String} {problem : Failure} :
      Answers ⟨tree, begun, waiting, some problem⟩ (.error problem)

end Course

/-- The next file is looked at, or one of the tasks moves, whichever it is. -/
inductive Step (pipeline : Pipeline (StateM FileTree)) : Course → Course → Prop
  | load {tree : FileTree} {begun : List Slot} {path : String} {task : Task} {waiting : List String}
      (loaded : TaskFile.ofFile path (tree.read path) = .ok task) :
      Step pipeline ⟨tree, begun, path :: waiting, none⟩ ⟨tree, begun ++ [.loaded path task], waiting, none⟩
  | stop {tree : FileTree} {begun : List Slot} {path : String} {problem : Failure} {waiting : List String}
      (bad : TaskFile.ofFile path (tree.read path) = .error problem) :
      Step pipeline ⟨tree, begun, path :: waiting, none⟩ ⟨tree, begun, path :: waiting, some problem⟩
  | move {tree later : FileTree} {front back : List Slot} {slot moved : Slot} {waiting : List String}
      {stopped : Option Failure} (moves : Moves pipeline tree slot later moved) :
      Step pipeline ⟨tree, front ++ slot :: back, waiting, stopped⟩ ⟨later, front ++ moved :: back, waiting, stopped⟩

abbrev Schedule (pipeline : Pipeline (StateM FileTree)) : Course → Course → Prop := Relation.ReflTransGen (Step pipeline)

section Accounts

variable {pipeline : Pipeline (StateM FileTree)} {tree later : FileTree} {slot moved : Slot} {course next : Course}

theorem Moves.path_eq (moves : Moves pipeline tree slot later moved) : moved.path = slot.path := by
  cases moves <;> rfl

theorem Step.paths_eq (step : Step pipeline course next) : next.paths = course.paths := by
  cases step with
  | load _ => simp [Course.paths, Slot.path]
  | stop _ => rfl
  | move moves => simp [Course.paths, moves.path_eq]

/-- No file gets lost, and none changes its place. -/
theorem Schedule.paths_eq (schedule : Schedule pipeline course next) : next.paths = course.paths := by
  induction schedule with
  | refl => rfl
  | tail _ step ih => exact step.paths_eq.trans ih

/-- Where there are reports, there is one for each file. -/
theorem Course.Answers.path_eq {reports : List Report} (answers : course.Answers (.ok reports)) :
    reports.map Report.path = course.paths := by
  cases answers with
  | reports => simp [Course.paths, Slot.path]

end Accounts

section Executions

variable {pipeline : Pipeline (StateM FileTree)} {tree : FileTree} {path : String} {task : Task}
  {front back : List Slot} {waiting : List String} {stopped : Option Failure}

theorem conduct_execute_error {problem : PipelineError} {later : FileTree}
    (failed : conduct (pipeline.prepare task) tree = (.error problem, later)) :
    conduct (pipeline.execute task) tree = (.error problem, later) := conduct_bind_error _ failed

theorem conduct_execute_ok {prepared : Prepared} {middle : FileTree}
    (ran : conduct (pipeline.prepare task) tree = (.ok prepared, middle)) :
    conduct (pipeline.execute task) tree = conduct (pipeline.complete task prepared) middle := conduct_bind_ok _ ran

/-- A task that is carried out in one go moves from its beginning to its report. -/
theorem schedule_execute {result : Except PipelineError Outcome} {later : FileTree}
    (ran : conduct (pipeline.execute task) tree = (result, later)) :
    Schedule pipeline ⟨tree, front ++ .loaded path task :: back, waiting, stopped⟩
      ⟨later, front ++ .done ⟨path, task, result⟩ :: back, waiting, stopped⟩ := by
  rcases prepared : conduct (pipeline.prepare task) tree with ⟨problem | _, middle⟩
  · rw [conduct_execute_error prepared] at ran
    cases ran
    exact .single (.move (.fail prepared))
  · rw [conduct_execute_ok prepared] at ran
    exact .head (.move (.prepare prepared)) (.single (.move (.complete ran)))

theorem schedule_loaded {files : List (String × Task)} (begun : List Slot)
    (loadable : ∀ file ∈ files, TaskFile.ofFile file.1 (tree.read file.1) = .ok file.2) :
    Schedule pipeline ⟨tree, begun, files.map Prod.fst ++ waiting, none⟩
      ⟨tree, begun ++ files.map (fun file => .loaded file.1 file.2), waiting, none⟩ := by
  induction files generalizing begun with
  | nil =>
    rw [List.map_nil, List.map_nil, List.append_nil]
    exact .refl
  | cons file rest ih =>
    rw [List.forall_mem_cons] at loadable
    have others := ih (begun ++ [.loaded file.1 file.2]) loadable.2
    rw [List.append_assoc] at others
    exact .head (.load loadable.1) others

/-- One task after the other: a task comes to its end before the next file is looked at. -/
def oneByOne (pipeline : Pipeline (StateM FileTree)) : List String → StateM FileTree (Except Failure (List Report))
  | [] => return .ok []
  | path :: rest => do
    match ← TaskFile.load FileTree.access path with
    | .error problem => return .error problem
    | .ok task => do
      let result ← (pipeline.execute task).run
      return (← oneByOne pipeline rest).map (⟨path, task, result⟩ :: ·)

end Executions

section Loading

theorem run_load (path : String) (tree : FileTree) :
    (TaskFile.load FileTree.access path).run tree = (TaskFile.ofFile path (tree.read path), tree) := rfl

variable {pipeline : Pipeline (StateM FileTree)} {tree later : FileTree} {paths : List String}
  {result : Except Failure (List Report)}

theorem map_append_map (first second : List Report) (answer : Except Failure (List Report)) :
    (answer.map (second ++ ·)).map (first ++ ·) = answer.map (first ++ second ++ ·) := by
  cases answer with
  | error problem => rfl
  | ok reports => exact congrArg Except.ok (List.append_assoc first second reports).symm

theorem oneByOne_schedule (reports : List Report) (ran : (oneByOne pipeline paths).run tree = (result, later)) :
    ∃ course, Schedule pipeline ⟨tree, reports.map .done, paths, none⟩ course ∧ course.tree = later ∧
      course.Answers (result.map (reports ++ ·)) := by
  induction paths generalizing tree reports result with
  | nil =>
    cases ran
    refine ⟨_, .refl, rfl, ?_⟩
    rw [Except.map, List.append_nil]
    exact .reports
  | cons path rest ih =>
    rw [oneByOne, run_bind_of _ (run_load path tree)] at ran
    cases loaded : TaskFile.ofFile path (tree.read path) with
    | error problem =>
      rw [loaded] at ran
      cases ran
      exact ⟨_, .single (.stop loaded), rfl, .stopped⟩
    | ok task =>
      rw [loaded] at ran
      obtain ⟨carriedOut, middle, first, ran⟩ := run_bind_eq ran
      obtain ⟨answer, _, others, ended⟩ := run_bind_eq ran
      cases ended
      obtain ⟨course, schedule, rfl, answers⟩ := ih (reports ++ [⟨path, task, carriedOut⟩]) others
      rw [List.map_append] at schedule
      refine ⟨course, .head (.load loaded) ((schedule_execute first).trans schedule), rfl, ?_⟩
      rw [← map_append_map] at answers
      exact answers

end Loading

section Crowds

variable {pipeline : Pipeline (StateM FileTree)} {tree middle later : FileTree} {front back begun : List Slot}
  {waiting paths : List String} {stopped : Option Failure} {started : Started} {underWay left : List Started}
  {reports : List Report}

/-- Where a task stands that has got as far as storing, or failed. -/
def Started.slot (started : Started) : Slot :=
  match started.prepared with
  | .ok prepared => .prepared started.path started.task prepared
  | .error problem => .done ⟨started.path, started.task, .error problem⟩

theorem start_schedule {path : String} {task : Task} (loaded : TaskFile.ofFile path (tree.read path) = .ok task)
    (ran : (start pipeline path task).run tree = (started, later)) :
    Schedule pipeline ⟨tree, begun, path :: waiting, none⟩ ⟨later, begun ++ [started.slot], waiting, none⟩ := by
  refine .head (.load loaded) (.single ?_)
  obtain ⟨_ | _, _, prepared, ended⟩ := run_bind_eq ran
  · cases ended
    exact .move (.fail prepared)
  · cases ended
    exact .move (.prepare prepared)

theorem finish_schedule {report : Report} (ran : (finish pipeline started).run tree = (report, later)) :
    Schedule pipeline ⟨tree, front ++ started.slot :: back, waiting, stopped⟩
      ⟨later, front ++ .done report :: back, waiting, stopped⟩ := by
  rcases started with ⟨path, task, _ | _⟩
  · cases ran
    exact .refl
  · obtain ⟨_, _, completed, ended⟩ := run_bind_eq ran
    cases ended
    exact .single (.move (.complete completed))

theorem finishAll_schedule (front : List Slot) (ran : (finishAll pipeline underWay).run tree = (reports, later)) :
    Schedule pipeline ⟨tree, front ++ underWay.map Started.slot, waiting, stopped⟩
      ⟨later, front ++ reports.map .done, waiting, stopped⟩ := by
  induction underWay generalizing tree front reports with
  | nil =>
    cases ran
    exact .refl
  | cons started rest ih =>
    obtain ⟨report, _, first, ran⟩ := run_bind_eq ran
    obtain ⟨others, _, rest, ended⟩ := run_bind_eq ran
    cases ended
    have next := ih (front ++ [.done report]) rest
    rw [List.append_assoc, List.append_assoc] at next
    exact (finish_schedule first).trans next

theorem relieve_schedule (ran : (relieve pipeline underWay).run tree = ((reports, left), later)) :
    Schedule pipeline ⟨tree, front ++ underWay.map Started.slot, waiting, stopped⟩
      ⟨later, front ++ (reports.map .done ++ left.map Started.slot), waiting, stopped⟩ := by
  cases underWay with
  | nil =>
    cases ran
    exact .refl
  | cons first others =>
    rw [relieve] at ran
    split at ran
    · cases ran
      exact .refl
    · obtain ⟨report, _, finished, ended⟩ := run_bind_eq ran
      cases ended
      exact finish_schedule finished

theorem runBeside_schedule {result : Except Failure (List Report)} (reports : List Report)
    (ran : (runBeside pipeline FileTree.access underWay paths).run tree = (result, later)) :
    ∃ course, Schedule pipeline ⟨tree, reports.map .done ++ underWay.map Started.slot, paths, none⟩ course ∧
      course.tree = later ∧ course.Answers (result.map (reports ++ ·)) := by
  induction paths generalizing tree underWay reports result with
  | nil =>
    obtain ⟨others, _, finished, ended⟩ := run_bind_eq ran
    cases ended
    refine ⟨_, finishAll_schedule _ finished, rfl, ?_⟩
    rw [← List.map_append]
    exact .reports
  | cons path rest ih =>
    rw [runBeside, run_bind_of _ (run_load path tree)] at ran
    cases loaded : TaskFile.ofFile path (tree.read path) with
    | error problem =>
      rw [loaded] at ran
      obtain ⟨_, _, finished, ended⟩ := run_bind_eq ran
      cases ended
      exact ⟨_, .head (.stop loaded) (finishAll_schedule _ finished), rfl, .stopped⟩
    | ok task =>
      rw [loaded] at ran
      obtain ⟨latest, _, started, ran⟩ := run_bind_eq ran
      obtain ⟨⟨finished, left⟩, _, relieved, ran⟩ := run_bind_eq ran
      obtain ⟨answer, _, others, ended⟩ := run_bind_eq ran
      cases ended
      obtain ⟨course, schedule, rfl, answers⟩ := ih (reports ++ finished) others
      refine ⟨course, ((start_schedule loaded started).trans ?_).trans schedule, rfl, ?_⟩
      · rw [List.append_assoc, List.map_append, List.append_assoc]
        simpa using relieve_schedule relieved
      · rw [← map_append_map] at answers
        exact answers

/-- What the program does is one of the courses that the run of the files can take. -/
theorem runFiles_schedule (pipeline : Pipeline (StateM FileTree)) (tree : FileTree) (paths : List String) :
    ∃ course, Schedule pipeline (.opening tree paths) course ∧
      course.tree = ((runFiles pipeline FileTree.access paths).run tree).2 ∧
      course.Answers ((runFiles pipeline FileTree.access paths).run tree).1 := by
  rcases ran : (runFiles pipeline FileTree.access paths).run tree with ⟨result, later⟩
  obtain ⟨course, schedule, ended, answers⟩ := runBeside_schedule [] ran
  refine ⟨course, schedule, ended, ?_⟩
  cases result <;> exact answers

end Crowds

end Worker
end ScriptedTask
