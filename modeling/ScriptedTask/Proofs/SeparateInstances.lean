import Mathlib.Algebra.GroupWithZero.Nat
import Mathlib.Data.List.Forall2
import Mathlib.Data.List.Nodup
import ScriptedTask.Proofs.LastWrites
import ScriptedTask.Proofs.Schedules
import ScriptedTask.Proofs.Secluded

/-! Tasks of different process instances that are carried out at the same time. Whatever turns they
take, each comes to what it would come to by itself, and so does the file of variables. -/

namespace ScriptedTask.Worker

open FileTree VariableFile

/-- What a task comes to up to storing, if it is the only one. -/
def preparedAlone (pipeline : Pipeline (StateM FileTree)) (tree : FileTree) (task : Task) : Except PipelineError Prepared :=
  (conduct (pipeline.prepare task) tree).1

/-- What a task stores, if it is the only one. -/
def changesAlone (pipeline : Pipeline (StateM FileTree)) (tree : FileTree) (task : Task) : Option Values :=
  match preparedAlone pipeline tree task with
  | .ok prepared => if prepared.changes.isEmpty then none else some prepared.changes
  | .error _ => none

/-- What tasks store, each by itself. -/
def storedAlone (pipeline : Pipeline (StateM FileTree)) (tree : FileTree) (tasks : List Task) : List (String × Values) :=
  tasks.filterMap fun task => (changesAlone pipeline tree task).map (task.instanceId, ·)

/-- What is told of a task in the end, if its changes can be stored. -/
def reportOf (pipeline : Pipeline (StateM FileTree)) (tree : FileTree) (file : String × Task) : Report :=
  ⟨file.1, file.2, (preparedAlone pipeline tree file.2).map Prepared.outcome⟩

section Documents

variable {document : Document} {calls : List (String × Values)}

theorem get?_mergeAll_of_not_mem {instanceId : String} (away : instanceId ∉ calls.map Prod.fst) :
    (mergeAll document calls).get? instanceId = document.get? instanceId := by
  induction calls generalizing document with
  | nil => rfl
  | cons call rest ih =>
    rw [List.map_cons, List.mem_cons, not_or] at away
    rw [mergeAll, List.foldl_cons]
    exact (ih away.2).trans (by rw [get?_merge, if_neg away.1])

theorem get?_mergeAll_of_mem (distinct : (calls.map Prod.fst).Nodup) {call : String × Values} (member : call ∈ calls) :
    (mergeAll document calls).get? call.1 = some ((variablesOf document call.1).overlay call.2) := by
  induction calls generalizing document with
  | nil => cases member
  | cons first rest ih =>
    rw [List.map_cons, List.nodup_cons] at distinct
    rw [mergeAll, List.foldl_cons]
    rcases List.mem_cons.mp member with rfl | later
    · exact (get?_mergeAll_of_not_mem distinct.1).trans (by rw [get?_merge, if_pos rfl])
    · have differ : call.1 ≠ first.1 := fun same => distinct.1 (same ▸ List.mem_map_of_mem later)
      refine (ih distinct.2 later).trans ?_
      rw [variablesOf_merge, if_neg differ]

end Documents

section Alone

variable {pipeline : Pipeline (StateM FileTree)} {tree : FileTree} {tasks : List Task}

theorem sublist_storedAlone : ((storedAlone pipeline tree tasks).map Prod.fst).Sublist (tasks.map Task.instanceId) := by
  induction tasks with
  | nil => exact List.Sublist.slnil
  | cons task rest ih =>
    rw [storedAlone, List.filterMap_cons]
    cases changesAlone pipeline tree task with
    | none => exact ih.cons _
    | some changes => exact ih.cons_cons _

/-- The document in the end, seen from an instance. -/
theorem get?_storedAlone (distinct : (tasks.map Task.instanceId).Nodup) {task : Task} (member : task ∈ tasks)
    (document : Document) : (mergeAll document (storedAlone pipeline tree tasks)).get? task.instanceId =
      match changesAlone pipeline tree task with
      | some changes => some ((variablesOf document task.instanceId).overlay changes)
      | none => document.get? task.instanceId := by
  have once : ((storedAlone pipeline tree tasks).map Prod.fst).Nodup := distinct.sublist sublist_storedAlone
  cases changed : changesAlone pipeline tree task with
  | some changes =>
    have stored : (task.instanceId, changes) ∈ storedAlone pipeline tree tasks :=
      List.mem_filterMap.mpr ⟨task, member, by rw [changed]; rfl⟩
    exact get?_mergeAll_of_mem once stored
  | none =>
    refine get?_mergeAll_of_not_mem fun stored => ?_
    obtain ⟨call, inList, same⟩ := List.mem_map.mp stored
    obtain ⟨other, present, made⟩ := List.mem_filterMap.mp inList
    obtain ⟨changes, changesOther, rfl⟩ := Option.map_eq_some_iff.mp made
    obtain rfl : other = task := List.inj_on_of_nodup_map distinct present member same
    rw [changed] at changesOther
    cases changesOther

theorem get?_storedAlone_of_not_mem {instanceId : String} (away : instanceId ∉ tasks.map Task.instanceId)
    (document : Document) :
    (mergeAll document (storedAlone pipeline tree tasks)).get? instanceId = document.get? instanceId :=
  get?_mergeAll_of_not_mem fun stored => away (sublist_storedAlone.subset stored)

end Alone

section Invariant

variable {pipeline : Pipeline (StateM FileTree)} {path : String} {start tree later : FileTree}
  {initial final document : Document} {files : List (String × Task)} {task : Task} {prepared : Prepared}

/-- Tasks have to do with nothing but the file of variables. -/
structure OnFile (pipeline : Pipeline (StateM FileTree)) (path : String) : Prop where
  modest : pipeline.Modest
  repository : pipeline.repository = VariableFile.repository FileTree.access path

theorem onFile_pipeline (interpreter : Script.Interpreter) (settings : RunSettings) (path : String) (queries : List Query) :
    OnFile (Worker.pipeline interpreter settings FileTree.access path queries) path :=
  ⟨modest_pipeline interpreter settings FileTree.access path queries, rfl⟩

/-- The start of a run: the document that the file of variables holds, and task files that no storing
touches, of different instances, whose changes the document can hold. -/
structure Ready (pipeline : Pipeline (StateM FileTree)) (path : String) (initial : Document) (files : List (String × Task))
    (tree : FileTree) : Prop where
  serves : Serves path initial tree
  loadable : ∀ file ∈ files, TaskFile.ofFile file.1 (tree.read file.1) = .ok file.2
  apart : ∀ file ∈ files, (store path).Apart file.1 tree
  distinct : ((files.map Prod.snd).map Task.instanceId).Nodup
  fits : ∀ file ∈ files, ∀ prepared, preparedAlone pipeline tree file.2 = .ok prepared →
    Precise prepared.changes ∧ Shallow prepared.changes

/-- The document in the end. -/
def ending (pipeline : Pipeline (StateM FileTree)) (initial : Document) (files : List (String × Task)) (start : FileTree) :
    Document :=
  mergeAll initial (storedAlone pipeline start (files.map Prod.snd))

/-- A task is where it can be by itself. -/
def Fits (pipeline : Pipeline (StateM FileTree)) (start : FileTree) (file : String × Task) : Slot → Prop
  | .loaded path task => path = file.1 ∧ task = file.2
  | .prepared path task prepared => path = file.1 ∧ task = file.2 ∧ preparedAlone pipeline start file.2 = .ok prepared
  | .done report => report = reportOf pipeline start file

def Slot.isDone : Slot → Bool
  | .done _ => true
  | _ => false

/-- Besides, the document holds of the instance of the task what it held in the beginning, or what it
will hold in the end, if the task is done. -/
structure Stands (pipeline : Pipeline (StateM FileTree)) (start : FileTree) (initial final document : Document)
    (file : String × Task) (slot : Slot) : Prop where
  fits : Fits pipeline start file slot
  entry : document.get? file.2.instanceId = (if slot.isDone then final else initial).get? file.2.instanceId

theorem Stands.unchanged {file : String × Task} {slot : Slot} (stands : Stands pipeline start initial final document file slot)
    (undone : slot.isDone = false) : variablesOf document file.2.instanceId = variablesOf initial file.2.instanceId := by
  have entry := stands.entry
  rw [undone] at entry
  exact congrArg (Option.getD · SortedMap.empty) entry

/-- What holds all through a run: the files are those that were begun and those that wait, and only
tasks that were begun have stored anything. -/
structure Sound (pipeline : Pipeline (StateM FileTree)) (path : String) (initial : Document)
    (files begun rest : List (String × Task)) (start : FileTree) (document : Document) (course : Course) : Prop where
  serves : Serves path document course.tree
  whole : begun ++ rest = files
  stands : List.Forall₂ (Stands pipeline start initial (ending pipeline initial files start) document) begun course.begun
  waiting : course.waiting = rest.map Prod.fst
  goesOn : course.stopped = none
  others : ∀ instanceId, instanceId ∉ begun.map (fun file => file.2.instanceId) →
    document.get? instanceId = initial.get? instanceId
  loadable : ∀ file ∈ files, TaskFile.ofFile file.1 (course.tree.read file.1) = .ok file.2
  apart : ∀ file ∈ files, (store path).Apart file.1 course.tree

/-- Of two lists in step, what stands in the middle of the one can be changed if nothing becomes wrong beside it. -/
theorem forall₂_changed {α β : Type} {holds : α → β → Prop} {items : List α} {front back : List β} {middle : β}
    (each : List.Forall₂ holds items (front ++ middle :: back)) :
    ∃ before item rest, items = before ++ item :: rest ∧ holds item middle ∧
      ∀ (after : α → β → Prop) changed, (∀ other ∈ before ++ rest, ∀ slot, holds other slot → after other slot) →
        after item changed → List.Forall₂ after items (front ++ changed :: back) := by
  induction front generalizing items with
  | nil =>
    cases each with
    | @cons item _ rest _ here others =>
      refine ⟨[], item, rest, rfl, here, fun after changed kept now => .cons now ?_⟩
      have both := (List.forall₂_and_left rest back).mpr ⟨kept, others⟩
      exact both.imp fun other slot ⟨kept, held⟩ => kept slot held
  | cons first front ih =>
    cases each with
    | @cons item _ rest _ here others =>
      obtain ⟨before, found, beyond, rfl, held, change⟩ := ih others
      refine ⟨item :: before, found, beyond, rfl, held, fun after changed kept now => .cons ?_ (change after changed ?_ now)⟩
      · exact kept item List.mem_cons_self first here
      · exact fun other member => kept other (List.mem_cons_of_mem item member)

variable (onFile : OnFile pipeline path)

include onFile

theorem prepare_elsewhere (begun : Holds path initial start) (held : Holds path document tree)
    (same : variablesOf document task.instanceId = variablesOf initial task.instanceId) :
    conduct (pipeline.prepare task) tree = (preparedAlone pipeline start task, tree) := by
  obtain ⟨result, settled⟩ := onFile.modest.prepare_settled task (.ok (variablesOf initial task.instanceId))
  rw [onFile.repository] at settled
  have alone : preparedAlone pipeline start task = result := congrArg Prod.fst (settled start (begun.load task.instanceId))
  rw [alone]
  exact settled tree (same ▸ held.load task.instanceId)

theorem conduct_enter (task : Task) (stage : Stage) (tree : FileTree) :
    conduct (pipeline.enter task stage) tree = (.ok (), tree) := by
  obtain ⟨value, observed⟩ := onFile.modest.observes (task.withInputs Inputs.empty) stage
  rw [conduct, Pipeline.enter, ExceptT.run_lift, observed]
  rfl

theorem complete_quiet (quiet : prepared.changes.isEmpty = true) :
    conduct (pipeline.complete task prepared) tree = (.ok prepared.outcome, tree) := by
  rw [Pipeline.complete, Pipeline.persist, if_pos quiet, pure_bind, conduct_bind_ok _ (conduct_enter onFile task _ tree)]
  rfl

theorem complete_stored (changed : ¬prepared.changes.isEmpty = true)
    (stored : ((repository FileTree.access path).store task.instanceId prepared.changes).run tree = (.ok (), later)) :
    conduct (pipeline.complete task prepared) tree = (.ok prepared.outcome, later) := by
  rw [← onFile.repository] at stored
  rw [Pipeline.complete, Pipeline.persist, if_neg changed, conduct_bind_ok _ (conduct_consult _ stored),
    conduct_bind_ok _ (conduct_enter onFile task _ later)]
  rfl

end Invariant

section Runs

variable {pipeline : Pipeline (StateM FileTree)} {path : String} {start tree later : FileTree}
  {initial document : Document} {files begun rest : List (String × Task)} {slot moved : Slot} {front back : List Slot}
  {waiting : List String} {stopped : Option Failure} {course next : Course}
  (ready : Ready pipeline path initial files start)

include ready

theorem get?_ending {file : String × Task} (member : file ∈ files) :
    (ending pipeline initial files start).get? file.2.instanceId =
      match changesAlone pipeline start file.2 with
      | some changes => some ((variablesOf initial file.2.instanceId).overlay changes)
      | none => initial.get? file.2.instanceId :=
  get?_storedAlone ready.distinct (List.mem_map_of_mem member) initial

/-- The files on both sides of a file are of other instances. -/
theorem Ready.differ {before after : List (String × Task)} {file : String × Task} (whole : before ++ file :: after = files) :
    ∀ other ∈ before ++ after, other.2.instanceId ≠ file.2.instanceId := by
  have distinct := ready.distinct
  rw [List.map_map, ← whole, (List.perm_middle.map _).nodup_iff, List.map_cons, List.nodup_cons] at distinct
  exact fun other inside same => distinct.1 (List.mem_map.mpr ⟨other, inside, same⟩)

/-- A task that was begun belongs to a file, and may move as long as it stands right and the others do. -/
theorem Sound.turn (sound : Sound pipeline path initial files begun rest start document
      ⟨tree, front ++ slot :: back, waiting, stopped⟩) :
    ∃ file ∈ files, Stands pipeline start initial (ending pipeline initial files start) document file slot ∧
      (∀ moved, Stands pipeline start initial (ending pipeline initial files start) document file moved →
        Sound pipeline path initial files begun rest start document ⟨tree, front ++ moved :: back, waiting, stopped⟩) ∧
      ∀ moved text changes later, (store path).Replaces text tree later →
        Serves path (merge document file.2.instanceId changes) later →
        Stands pipeline start initial (ending pipeline initial files start) (merge document file.2.instanceId changes)
          file moved →
        Sound pipeline path initial files begun rest start (merge document file.2.instanceId changes)
          ⟨later, front ++ moved :: back, waiting, stopped⟩ := by
  obtain ⟨before, file, after, split, stands, change⟩ := forall₂_changed sound.stands
  have whole : before ++ file :: (after ++ rest) = files := by rw [← sound.whole, split, List.append_assoc, List.cons_append]
  refine ⟨file, by simp [← whole], stands, ?_, ?_⟩
  · intro moved standing
    exact { sound with stands := change _ moved (fun _ _ _ held => held) standing }
  · intro moved text changes later replaced serves standing
    refine ⟨serves, sound.whole, change _ moved ?_ standing, sound.waiting, sound.goesOn, ?_, ?_, ?_⟩
    · intro other inside slot held
      refine ⟨held.fits, ?_⟩
      rw [get?_merge, if_neg (ready.differ whole other (by rw [← List.append_assoc]; exact List.mem_append_left _ inside))]
      exact held.entry
    · intro instanceId away
      rw [get?_merge, if_neg]
      · exact sound.others instanceId away
      · rintro rfl
        exact away (List.mem_map.mpr ⟨file, by simp [split], rfl⟩)
    · intro other inside
      have loaded := sound.loadable other inside
      cases held : tree.read other.1 with
      | error problem =>
        rw [held] at loaded
        cases loaded
      | ok content =>
        rw [replaced.read_apart (sound.apart other inside) held, ← held]
        exact loaded
    · exact fun other inside => replaced.apart (sound.apart other inside)

/-- No file loses its task before it is loaded. -/
theorem Sound.load {file : String × Task} {slots : List Slot}
    (sound : Sound pipeline path initial files begun (file :: rest) start document ⟨tree, slots, waiting, stopped⟩) :
    TaskFile.ofFile file.1 (tree.read file.1) = .ok file.2 ∧
      Sound pipeline path initial files (begun ++ [file]) rest start document
        ⟨tree, slots ++ [.loaded file.1 file.2], rest.map Prod.fst, stopped⟩ := by
  have loaded := sound.loadable file (by simp [← sound.whole])
  have unknown : file.2.instanceId ∉ begun.map fun file => file.2.instanceId := by
    intro known
    obtain ⟨other, inside, same⟩ := List.mem_map.mp known
    exact ready.differ sound.whole other (List.mem_append_left _ inside) same
  have stands : Stands pipeline start initial (ending pipeline initial files start) document file (.loaded file.1 file.2) :=
    ⟨⟨rfl, rfl⟩, sound.others _ unknown⟩
  refine ⟨loaded, { sound with
    whole := by rw [List.append_assoc, ← sound.whole]; rfl
    stands := List.rel_append sound.stands (.cons stands .nil)
    waiting := rfl
    others := ?_ }⟩
  intro instanceId away
  rw [List.map_append, List.mem_append, not_or] at away
  exact sound.others instanceId away.1

variable (onFile : OnFile pipeline path)

include onFile

/-- Whatever task moves, what holds all through a run goes on to hold. -/
theorem Sound.moves (sound : Sound pipeline path initial files begun rest start document
      ⟨tree, front ++ slot :: back, waiting, stopped⟩) (moves : Moves pipeline tree slot later moved) :
    ∃ document, Sound pipeline path initial files begun rest start document
      ⟨later, front ++ moved :: back, waiting, stopped⟩ := by
  obtain ⟨file, member, stands, move, store⟩ := sound.turn ready
  have fits := stands.fits
  have entry := stands.entry
  have final := get?_ending ready member
  cases moves with
  | prepare ran =>
    obtain ⟨rfl, rfl⟩ := fits
    rw [prepare_elsewhere onFile ready.serves.holds sound.serves.holds (stands.unchanged rfl), Prod.mk.injEq] at ran
    obtain ⟨alone, rfl⟩ := ran
    exact ⟨document, move _ ⟨⟨rfl, rfl, alone⟩, entry⟩⟩
  | fail ran =>
    obtain ⟨rfl, rfl⟩ := fits
    rw [prepare_elsewhere onFile ready.serves.holds sound.serves.holds (stands.unchanged rfl), Prod.mk.injEq] at ran
    obtain ⟨alone, rfl⟩ := ran
    refine ⟨document, move _ ⟨?_, ?_⟩⟩
    · rw [Fits, reportOf, alone]
      rfl
    · rw [changesAlone, alone] at final
      exact entry.trans final.symm
  | @complete _ _ _ prepared _ ran =>
    obtain ⟨rfl, rfl, alone⟩ := fits
    have reported : reportOf pipeline start file = ⟨file.1, file.2, .ok prepared.outcome⟩ := by
      rw [reportOf, alone]
      rfl
    by_cases quiet : prepared.changes.isEmpty = true
    · rw [complete_quiet onFile quiet, Prod.mk.injEq] at ran
      obtain ⟨rfl, rfl⟩ := ran
      rw [changesAlone, alone] at final
      simp only [quiet, if_true] at final
      exact ⟨document, move _ ⟨reported.symm, entry.trans final.symm⟩⟩
    · obtain ⟨precise, shallow⟩ := ready.fits file member prepared alone
      obtain ⟨text, next, replaced, stored, serves⟩ := sound.serves.store precise shallow file.2.instanceId
      rw [complete_stored onFile quiet stored, Prod.mk.injEq] at ran
      obtain ⟨rfl, rfl⟩ := ran
      rw [changesAlone, alone] at final
      simp only [quiet] at final
      refine ⟨_, store _ text _ next replaced serves ⟨reported.symm, ?_⟩⟩
      rw [get?_merge, if_pos rfl, stands.unchanged rfl]
      exact final.symm

theorem Sound.step (sound : Sound pipeline path initial files begun rest start document course)
    (step : Step pipeline course next) :
    ∃ begun rest document, Sound pipeline path initial files begun rest start document next := by
  cases step with
  | load loaded =>
    cases rest with
    | nil => cases sound.waiting
    | cons file rest =>
      obtain ⟨rfl, rfl⟩ := List.cons_eq_cons.mp sound.waiting
      obtain ⟨again, later⟩ := sound.load ready
      rw [again] at loaded
      cases loaded
      exact ⟨_, _, _, later⟩
  | stop bad =>
    cases rest with
    | nil => cases sound.waiting
    | cons file rest =>
      obtain ⟨rfl, -⟩ := List.cons_eq_cons.mp sound.waiting
      rw [(sound.load ready).1] at bad
      cases bad
  | move moves =>
    obtain ⟨document, later⟩ := sound.moves ready onFile moves
    exact ⟨_, _, _, later⟩

theorem Sound.schedule (sound : Sound pipeline path initial files begun rest start document course)
    (schedule : Schedule pipeline course next) :
    ∃ begun rest document, Sound pipeline path initial files begun rest start document next := by
  induction schedule with
  | refl => exact ⟨begun, rest, document, sound⟩
  | tail _ step ih =>
    obtain ⟨_, _, _, sound⟩ := ih
    exact sound.step ready onFile step

end Runs

section Ends

variable {pipeline : Pipeline (StateM FileTree)} {path : String} {start tree : FileTree} {initial document : Document}
  {files begun rest : List (String × Task)} {course next : Course}

theorem Ready.sound (ready : Ready pipeline path initial files start) :
    Sound pipeline path initial files [] files start initial (.opening start (files.map Prod.fst)) where
  serves := ready.serves
  whole := rfl
  stands := .nil
  waiting := rfl
  goesOn := rfl
  others _ _ := rfl
  loadable := ready.loadable
  apart := ready.apart

/-- How much is left to do for a task. -/
def Slot.left : Slot → Nat
  | .loaded .. => 2
  | .prepared .. => 1
  | .done _ => 0

/-- How much is left to do in a run that does not stop. -/
def Course.left (course : Course) : Nat := 3 * course.waiting.length + (course.begun.map Slot.left).sum

theorem Moves.left_lt {later : FileTree} {slot moved : Slot} (moves : Moves pipeline tree slot later moved) :
    moved.left < slot.left := by
  cases moves <;> simp [Slot.left]

/-- Where a task has a move to make, it can make it. -/
theorem exists_moves (pipeline : Pipeline (StateM FileTree)) (tree : FileTree) {slot : Slot} (undone : slot.isDone ≠ true) :
    ∃ later moved, Moves pipeline tree slot later moved := by
  cases slot with
  | loaded path task =>
    rcases ran : conduct (pipeline.prepare task) tree with ⟨problem | prepared, later⟩
    · exact ⟨later, _, .fail ran⟩
    · exact ⟨later, _, .prepare ran⟩
  | prepared path task prepared => exact ⟨_, _, .complete rfl⟩
  | done report => exact absurd rfl undone

theorem exists_reports {slots : List Slot} (done : ∀ slot ∈ slots, slot.isDone = true) :
    ∃ reports : List Report, slots = reports.map .done := by
  induction slots with
  | nil => exact ⟨[], rfl⟩
  | cons slot slots ih =>
    rw [List.forall_mem_cons] at done
    obtain ⟨reports, rfl⟩ := ih done.2
    cases slot with
    | done report => exact ⟨report :: reports, rfl⟩
    | _ => cases done.1

/-- In the end there are the reports, and the document is the one that was foreseen. -/
theorem Sound.answered (sound : Sound pipeline path initial files begun rest start document course)
    {answer : Except Failure (List Report)} (answers : course.Answers answer) :
    answer = .ok (files.map (reportOf pipeline start)) ∧ document = ending pipeline initial files start := by
  cases answers with
  | stopped => cases sound.goesOn
  | @reports _ reports =>
    obtain rfl : rest = [] := List.map_eq_nil_iff.mp sound.waiting.symm
    obtain rfl : begun = files := (List.append_nil begun).symm.trans sound.whole
    have stands := List.forall₂_map_right_iff.mp sound.stands
    have reported : reports = begun.map (reportOf pipeline start) := by
      rw [← List.forall₂_eq_eq_eq, List.forall₂_map_right_iff]
      exact stands.flip.imp fun _ _ standing => standing.fits
    refine ⟨congrArg Except.ok reported, Ascending.ext_get? fun instanceId => ?_⟩
    by_cases known : instanceId ∈ begun.map fun file => file.2.instanceId
    · obtain ⟨file, member, rfl⟩ := List.mem_map.mp known
      rw [reported, List.forall₂_map_right_iff, List.forall₂_same] at stands
      exact (stands file member).entry
    · rw [sound.others instanceId known, ending, get?_storedAlone_of_not_mem]
      rw [List.map_map]
      exact known

/-- A run that has no answer yet can go on. -/
theorem Sound.exists_step (sound : Sound pipeline path initial files begun rest start document course)
    (ready : Ready pipeline path initial files start) :
    (∃ reports, course.Answers (.ok reports)) ∨ ∃ next, Step pipeline course next ∧ next.left < course.left := by
  obtain ⟨tree, slots, waiting, stopped⟩ := course
  obtain rfl : stopped = none := sound.goesOn
  cases rest with
  | cons file rest =>
    obtain rfl : waiting = file.1 :: rest.map Prod.fst := sound.waiting
    refine .inr ⟨_, .load (sound.load ready).1, ?_⟩
    simp [Course.left, Slot.left]
    omega
  | nil =>
    obtain rfl : waiting = [] := sound.waiting
    by_cases done : ∀ slot ∈ slots, slot.isDone = true
    · obtain ⟨reports, rfl⟩ := exists_reports done
      exact .inl ⟨reports, .reports⟩
    · simp only [Classical.not_forall] at done
      obtain ⟨slot, member, undone⟩ := done
      obtain ⟨front, back, rfl⟩ := List.append_of_mem member
      obtain ⟨later, moved, moves⟩ := exists_moves pipeline tree undone
      refine .inr ⟨_, .move moves, ?_⟩
      have less := moves.left_lt
      simp [Course.left]
      omega

/-- Every run can be brought to its end. -/
theorem Sound.completes (ready : Ready pipeline path initial files start) (onFile : OnFile pipeline path)
    (sound : Sound pipeline path initial files begun rest start document course) :
    ∃ later, Schedule pipeline course later ∧ later.Answers (.ok (files.map (reportOf pipeline start))) := by
  induction size : course.left using Nat.strongRecOn generalizing begun rest document course with
  | ind left ih =>
    rcases sound.exists_step ready with ⟨reports, answers⟩ | ⟨next, step, less⟩
    · obtain ⟨same, -⟩ := sound.answered answers
      exact ⟨course, .refl, same ▸ answers⟩
    · obtain ⟨_, _, _, sound⟩ := sound.step ready onFile step
      obtain ⟨later, schedule, answers⟩ := ih _ (size ▸ less) sound rfl
      exact ⟨later, .head step schedule, answers⟩

end Ends

end ScriptedTask.Worker
