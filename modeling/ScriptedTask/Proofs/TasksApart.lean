import ScriptedTask.Proofs.SeparateInstances
import ScriptedTask.Proofs.TaskRuns

/-! Tasks of different process instances do not see each other. However their steps follow one
another, each has the report that it would have alone, and the file of variables ends as the one
document to which each of them added what it changed. This is so as long as none of the task files is
itself the file of variables. -/

namespace ScriptedTask

open FileTree VariableFile

/-- The document of a report tells of an error. -/
def Json.tellsError : Json → Bool
  | .object members => members.contains "error"
  | _ => false

theorem Report.tellsError_toJson (report : Report) : report.toJson.tellsError = report.isFailure := by
  rw [toJson, Json.tellsError, Ascending.contains, Ascending.get?_ofList, isFailure, resultMembers]
  cases report.result <;> rfl

theorem Report.countP_tellsError (reports : List Report) :
    (reports.map Report.toJson).countP Json.tellsError = reports.countP Report.isFailure := by
  rw [List.countP_map]
  exact List.countP_congr fun report _ => by rw [Function.comp, report.tellsError_toJson]

namespace Worker

variable {pipeline : Pipeline (StateM FileTree)} {path : String} {initial final : Document}
  {files : List (String × Task)} {file : String × Task} {start : FileTree} {reports : List Report}

/-- What becomes of the task of a file. -/
structure Settled (pipeline : Pipeline (StateM FileTree)) (initial : Document) (start : FileTree) (final : Document)
    (file : String × Task) (report : Report) : Prop where
  path : report.path = file.1
  task : report.task = file.2
  alone : ∃ later, (runFiles pipeline FileTree.access [file.1]).run start = (.ok [report], later)
  /-- The task failed and stored nothing, or the variables of its instance are overlaid with its changes. -/
  entry : ((∃ problem, report.result = .error problem) ∧ final.get? file.2.instanceId = initial.get? file.2.instanceId) ∨
    ∃ prepared, conduct (pipeline.prepare file.2) start = (.ok prepared, start) ∧ report.result = .ok prepared.outcome ∧
      final.get? file.2.instanceId =
        if prepared.changes.isEmpty then initial.get? file.2.instanceId
        else some ((variablesOf initial file.2.instanceId).overlay prepared.changes)

/-- What comes of the tasks of files, in whatever order they are carried out. -/
structure Concurs (pipeline : Pipeline (StateM FileTree)) (path : String) (initial : Document) (files : List (String × Task))
    (start : FileTree) (reports : List Report) (final : Document) : Prop where
  settled : List.Forall₂ (Settled pipeline initial start final) files reports
  others : ∀ instanceId, (∀ file ∈ files, file.2.instanceId ≠ instanceId) → final.get? instanceId = initial.get? instanceId
  /-- However far a run got, it can go on to its end. -/
  goesOn : ∀ course, Schedule pipeline (.opening start (files.map Prod.fst)) course →
    ∃ later, Schedule pipeline course later ∧ later.Answers (.ok reports)
  /-- In the end there is nothing but these reports and this document. -/
  ends : ∀ course answer, Schedule pipeline (.opening start (files.map Prod.fst)) course → course.Answers answer →
    answer = .ok reports ∧ Holds path final course.tree
  /-- It is what the program comes to. -/
  among : ∃ later, (runFiles pipeline FileTree.access (files.map Prod.fst)).run start = (.ok reports, later) ∧
    Holds path final later
  failures : reports.countP Report.isFailure = (reports.map Report.toJson).countP Json.tellsError

section Ready

variable (ready : Ready pipeline path initial files start)

include ready

theorem Ready.alone (member : file ∈ files) : Ready pipeline path initial [file] start where
  serves := ready.serves
  loadable := by simpa using ready.loadable file member
  apart := by simpa using ready.apart file member
  distinct := List.nodup_singleton _
  fits := by simpa using ready.fits file member

variable (onFile : OnFile pipeline path)

include onFile

/-- Whatever course a run takes, it is answered with what each task comes to by itself. -/
theorem Ready.ends {course : Course} {answer : Except Failure (List Report)}
    (schedule : Schedule pipeline (.opening start (files.map Prod.fst)) course) (answers : course.Answers answer) :
    answer = .ok (files.map (reportOf pipeline start)) ∧ Holds path (ending pipeline initial files start) course.tree := by
  obtain ⟨_, _, document, sound⟩ := ready.sound.schedule ready onFile schedule
  obtain ⟨same, rfl⟩ := sound.answered answers
  exact ⟨same, sound.serves.holds⟩

theorem Ready.among : ∃ later, (runFiles pipeline FileTree.access (files.map Prod.fst)).run start =
    (.ok (files.map (reportOf pipeline start)), later) ∧ Holds path (ending pipeline initial files start) later := by
  obtain ⟨course, schedule, ended, answers⟩ := runFiles_schedule pipeline start (files.map Prod.fst)
  obtain ⟨same, holds⟩ := ready.ends onFile schedule answers
  exact ⟨course.tree, Prod.ext same ended.symm, holds⟩

theorem Ready.settled (member : file ∈ files) :
    Settled pipeline initial start (ending pipeline initial files start) file (reportOf pipeline start file) := by
  refine ⟨rfl, rfl, ?_, ?_⟩
  · obtain ⟨later, ran, -⟩ := (ready.alone member).among onFile
    exact ⟨later, ran⟩
  · have prepares : conduct (pipeline.prepare file.2) start = (preparedAlone pipeline start file.2, start) :=
      prepare_elsewhere onFile ready.serves.holds ready.serves.holds rfl
    have final := get?_ending ready member
    rw [changesAlone] at final
    cases alone : preparedAlone pipeline start file.2 with
    | error problem =>
      rw [alone] at final
      exact .inl ⟨⟨problem, by rw [reportOf, alone]; rfl⟩, final⟩
    | ok prepared =>
      rw [alone] at final prepares
      refine .inr ⟨prepared, prepares, by rw [reportOf, alone]; rfl, final.trans ?_⟩
      by_cases quiet : prepared.changes.isEmpty = true <;> simp [quiet]

theorem Ready.concurs : Concurs pipeline path initial files start (files.map (reportOf pipeline start))
    (ending pipeline initial files start) where
  settled := List.forall₂_map_right_iff.mpr (List.forall₂_same.mpr fun file member => ready.settled onFile member)
  others instanceId away := get?_storedAlone_of_not_mem (by simpa [eq_comm] using away) initial
  goesOn course schedule := by
    obtain ⟨_, _, _, sound⟩ := ready.sound.schedule ready onFile schedule
    exact sound.completes ready onFile
  ends course answer schedule answers := ready.ends onFile schedule answers
  among := ready.among onFile
  failures := (Report.countP_tellsError _).symm

end Ready

/-- Tasks of different instances, however they are carried out: the same reports and the same document,
and of both each task makes the part that it would make alone. No task file is the file of variables or
where that is written first, and what is stored can be read back. -/
theorem tasks_do_not_see_each_other {interpreter : Script.Interpreter} {settings : RunSettings} {queries : List Query}
    {path : String} {initial : Document} {files : List (String × Task)} {start : FileTree}
    (readable : ((VariableFile.store path).read FileTree.access).run start = (.ok initial, start))
    (replaceable : (VariableFile.store path).Replaceable start) (precise : Everywhere Precise initial)
    (loadable : ∀ file ∈ files, TaskFile.ofFile file.1 (start.read file.1) = .ok file.2)
    (apart : ∀ file ∈ files, (VariableFile.store path).Apart file.1 start)
    (distinct : (files.map fun file => file.2.instanceId).Nodup)
    (fits : ∀ file ∈ files, ∀ prepared later,
      conduct ((Worker.pipeline interpreter settings FileTree.access path queries).prepare file.2) start =
        (.ok prepared, later) → Precise prepared.changes ∧ Shallow prepared.changes) :
    ∃ reports final, Concurs (Worker.pipeline interpreter settings FileTree.access path queries) path initial files start
      reports final := by
  have onFile := onFile_pipeline interpreter settings path queries
  have ready : Ready (Worker.pipeline interpreter settings FileTree.access path queries) path initial files start := by
    refine ⟨⟨readable, precise, replaceable⟩, loadable, apart, ?_, ?_⟩
    · rw [List.map_map]
      exact distinct
    · exact fun file member prepared alone => fits file member prepared _ (Prod.ext alone rfl)
  exact ⟨_, _, ready.concurs onFile⟩

/-- A task of another instance, whose script fails. -/
def failing : String :=
  "\x7b\"id\":\"u\",\"processInstanceId\":\"j\"," ++
    "\"variables\":\x7b\"prescript\":\x7b\"value\":\"throw true;\"\x7d\x7d\x7d"

def twoTasks : FileTree := ⟨SortedMap.ofList [("first.json", .file writer), ("second.json", .file failing)], []⟩

theorem flat_twoTasks : Flat twoTasks := (flat_noFiles.insert "first.json" writer).insert "second.json" failing

theorem apart_twoTasks {path : String} (named : path = "first.json" ∨ path = "second.json") :
    (VariableFile.store "variables.json").Apart path twoTasks := by
  have bare : IsBare (VariableFile.store "variables.json").path := isBare_variables
  rcases named with rfl | rfl
  · exact DocumentStore.apart_flat bare flat_twoTasks ⟨by decide, by decide, by decide⟩ (by decide) (by decide)
  · exact DocumentStore.apart_flat bare flat_twoTasks ⟨by decide, by decide, by decide⟩ (by decide) (by decide)

/-- The file has a task of the instance, and what it changes can be stored. -/
def fitting (pipeline : Pipeline (StateM FileTree)) (tree : FileTree) (path instanceId : String) : Bool :=
  match TaskFile.ofFile path (tree.read path) with
  | .error _ => false
  | .ok task => task.instanceId == instanceId &&
    match conduct (pipeline.prepare task) tree with
    | (.ok prepared, _) => storable prepared.changes
    | (.error _, _) => true

theorem fitting_spec {pipeline : Pipeline (StateM FileTree)} {tree : FileTree} {path instanceId : String}
    (fits : fitting pipeline tree path instanceId = true) : ∃ task, TaskFile.ofFile path (tree.read path) = .ok task ∧
      task.instanceId = instanceId ∧ ∀ prepared later, conduct (pipeline.prepare task) tree = (.ok prepared, later) →
        Precise prepared.changes ∧ Shallow prepared.changes := by
  rw [fitting] at fits
  split at fits
  · cases fits
  next task loaded =>
    rw [Bool.and_eq_true, beq_iff_eq] at fits
    refine ⟨task, loaded, fits.1, fun prepared later ran => ?_⟩
    have stored := fits.2
    rw [ran] at stored
    exact (storable_iff.mp stored).imp_left Integral.precise

/-- How many of the tasks of files fail, if there are reports. -/
def failures (pipeline : Pipeline (StateM FileTree)) (tree : FileTree) (paths : List String) : Option Nat :=
  match (runFiles pipeline FileTree.access paths).run tree with
  | (.ok reports, _) => some (reports.countP Report.isFailure)
  | (.error _, _) => none

set_option maxRecDepth 100000 in
theorem twoTasks_run : fitting plainWorker twoTasks "first.json" "i" = true ∧
    fitting plainWorker twoTasks "second.json" "j" = true ∧
    failures plainWorker twoTasks ["first.json", "second.json"] = some 1 := by
  decide +kernel

/-- A task that writes is not disturbed by one that fails. -/
theorem writer_and_failing_are_apart : ∃ files reports final, files.map Prod.fst = ["first.json", "second.json"] ∧
    reports.countP Report.isFailure = 1 ∧
    Concurs plainWorker "variables.json" SortedMap.empty files twoTasks reports final := by
  obtain ⟨firstRuns, secondRuns, counted⟩ := twoTasks_run
  obtain ⟨first, firstLoaded, firstOf, firstFits⟩ := fitting_spec firstRuns
  obtain ⟨second, secondLoaded, secondOf, secondFits⟩ := fitting_spec secondRuns
  have loadable : ∀ file ∈ [("first.json", first), ("second.json", second)],
      TaskFile.ofFile file.1 (twoTasks.read file.1) = .ok file.2 :=
    List.forall_mem_cons.mpr ⟨firstLoaded, List.forall_mem_singleton.mpr secondLoaded⟩
  obtain ⟨reports, final, concurs⟩ := tasks_do_not_see_each_other (holds_missing rfl)
    (DocumentStore.replaceable_flat isBare_variables flat_twoTasks) everywhere_empty loadable
    (by simpa using ⟨apart_twoTasks (.inl rfl), apart_twoTasks (.inr rfl)⟩) (by simp [firstOf, secondOf])
    (List.forall_mem_cons.mpr ⟨firstFits, List.forall_mem_singleton.mpr secondFits⟩)
  obtain ⟨later, ran, -⟩ := concurs.among
  have ran : (runFiles plainWorker FileTree.access ["first.json", "second.json"]).run twoTasks = (.ok reports, later) := ran
  rw [failures, ran] at counted
  exact ⟨_, reports, final, rfl, Option.some.inj counted, concurs⟩

/-- A task that stores what is itself a task. -/
def planter : String :=
  "\x7b\"processInstanceId\":\"variables\",\"variables\":\x7b\"prescript\":\x7b\"value\":" ++
    "\"variables.write('prescript', \x7bvalue: \\\"outputs.set('x', 1)\\\"\x7d);\"\x7d\x7d\x7d"

/-- The file of variables can be read as a task, too. -/
def planted : FileTree := ⟨SortedMap.ofList [("planter.json", .file planter), ("variables.json", .file "\x7b\x7d")], []⟩

theorem flat_planted : Flat planted := (flat_noFiles.insert "planter.json" planter).insert "variables.json" "\x7b\x7d"

/-- The task has an output of a name. -/
def putsOut (name : String) (report : Report) : Bool :=
  match report.result with
  | .ok outcome => outcome.outputs.contains name
  | .error _ => false

/-- Which of the tasks of files have an output of a name, if there are reports. -/
def puttingOut (name : String) (result : Except Failure (List Report)) : Option (List Bool) :=
  match result with
  | .ok reports => some (reports.map (putsOut name))
  | .error _ => none

set_option maxRecDepth 100000 in
theorem planted_run : fitting plainWorker planted "planter.json" "variables" = true ∧
    fitting plainWorker planted "variables.json" "" = true ∧
    puttingOut "x" ((oneByOne plainWorker ["planter.json", "variables.json"]).run planted).1 = some [false, true] ∧
    puttingOut "x" ((runFiles plainWorker FileTree.access ["variables.json"]).run planted).1 = some [false] := by
  decide +kernel

/-- It has to be said of task files that no storing touches them: if the file of variables is one of them,
then its task is another one when a task before it has stored something. -/
theorem stored_variables_are_run_as_a_task : ∃ files : List (String × Task),
    files.map Prod.fst = ["planter.json", "variables.json"] ∧
    ((VariableFile.store "variables.json").read FileTree.access).run planted = (.ok SortedMap.empty, planted) ∧
    (VariableFile.store "variables.json").Replaceable planted ∧
    (∀ file ∈ files, TaskFile.ofFile file.1 (planted.read file.1) = .ok file.2) ∧
    (files.map fun file => file.2.instanceId).Nodup ∧
    (∀ file ∈ files, ∀ prepared later, conduct (plainWorker.prepare file.2) planted = (.ok prepared, later) →
      Precise prepared.changes ∧ Shallow prepared.changes) ∧
    ¬∃ reports final, Concurs plainWorker "variables.json" SortedMap.empty files planted reports final := by
  obtain ⟨firstRuns, secondRuns, together, apart⟩ := planted_run
  obtain ⟨first, firstLoaded, firstOf, firstFits⟩ := fitting_spec firstRuns
  obtain ⟨second, secondLoaded, secondOf, secondFits⟩ := fitting_spec secondRuns
  refine ⟨[("planter.json", first), ("variables.json", second)], rfl, rfl,
    DocumentStore.replaceable_flat isBare_variables flat_planted,
    List.forall_mem_cons.mpr ⟨firstLoaded, List.forall_mem_singleton.mpr secondLoaded⟩, by simp [firstOf, secondOf],
    List.forall_mem_cons.mpr ⟨firstFits, List.forall_mem_singleton.mpr secondFits⟩, ?_⟩
  rintro ⟨reports, final, concurs⟩
  rcases ran : (oneByOne plainWorker ["planter.json", "variables.json"]).run planted with ⟨result, later⟩
  obtain ⟨course, schedule, -, answers⟩ := oneByOne_schedule [] ran
  obtain ⟨answered, -⟩ := concurs.ends course _ schedule answers
  obtain ⟨_, found, rfl⟩ := map_ok answered
  rw [ran, found] at together
  cases concurs.settled with
  | cons _ others =>
    cases others with
    | cons settled none =>
      cases none
      obtain ⟨_, alone⟩ := settled.alone
      rw [alone] at apart
      simp only [puttingOut, List.map_cons, List.map_nil, Option.some.injEq, List.cons.injEq, and_true] at together apart
      rw [apart] at together
      cases together.2

end Worker
end ScriptedTask
