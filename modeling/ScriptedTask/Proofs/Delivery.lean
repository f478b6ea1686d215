import Mathlib.Data.List.Perm.Basic
import ScriptedTask.Pipeline.Echo
import ScriptedTask.Proofs.Alike
import ScriptedTask.Proofs.Passage
import ScriptedTask.Proofs.Substitution
import ScriptedTask.Proofs.Template.Rendering

/-! The order in which the inputs of a task are delivered. Scripts see inputs by name, and substitution takes
them one by one, so the order shows in one thing alone: which of several inputs that are no templates
is the first. -/

namespace ScriptedTask

/-- The tasks hold the same inputs, perhaps in another order. -/
structure Task.Reordered (left right : Task) : Prop where
  id : left.id = right.id
  instanceId : left.instanceId = right.instanceId
  inputs : left.inputs.entries.Perm right.inputs.entries

/-- The handler does the same with the same inputs in any order. -/
def Handler.IgnoresOrder {m : Type → Type} (handler : Handler m) : Prop :=
  ∀ left right : Task, left.Reordered right → handler.handle left = handler.handle right

namespace Inputs

theorem values_perm {left right : Inputs} (shuffled : left.entries.Perm right.entries) : left.values = right.values :=
  (Ascending.ofList_perm left.distinct_pairs (shuffled.symm.map _)).symm

/-- The problem is one of the inputs by itself: a string that is no template. -/
def Faulty (inputs : Inputs) (problem : SubstitutionError) : Prop :=
  ∃ typeTag text, (problem.input, ⟨.string text, typeTag⟩) ∈ inputs.entries ∧ Template.parse text = .error problem.source

/-- An input has at most one problem. -/
theorem Faulty.unique {inputs : Inputs} {one other : SubstitutionError} (first : inputs.Faulty one)
    (second : inputs.Faulty other) (same : one.input = other.input) : one = other := by
  obtain ⟨tag, text, member, failed⟩ := first
  obtain ⟨otherTag, otherText, otherMember, otherFailed⟩ := second
  rw [mem_iff_lookup inputs.distinct, same] at member
  rw [mem_iff_lookup inputs.distinct, member] at otherMember
  cases otherMember
  rw [failed] at otherFailed
  obtain ⟨input, source⟩ := one
  obtain ⟨otherInput, otherSource⟩ := other
  cases same
  cases otherFailed
  rfl

theorem Faulty.of_perm {left right : Inputs} {problem : SubstitutionError} (faulty : left.Faulty problem)
    (shuffled : left.entries.Perm right.entries) : right.Faulty problem := by
  obtain ⟨typeTag, text, member, failed⟩ := faulty
  exact ⟨typeTag, text, shuffled.mem_iff.mp member, failed⟩

theorem faulty_of_substitute {inputs : Inputs} {values : Values} {problem : SubstitutionError}
    (failed : inputs.substitute values = .error problem) : inputs.Faulty problem := by
  obtain ⟨before, typeTag, text, after, whole, -, blamed⟩ := substitute_error_iff.mp failed
  exact ⟨typeTag, text, by simp [whole], Placeholders.render_error_iff.mp blamed⟩

/-- Inputs in another order are substituted to the same inputs in that order. -/
theorem substitute_perm {left right first : Inputs} {values : Values} (shuffled : left.entries.Perm right.entries)
    (done : left.substitute values = .ok first) :
    ∃ second, right.substitute values = .ok second ∧ first.entries.Perm second.entries := by
  have changed := left.substitute_eq_mapM values
  rw [done] at changed
  obtain ⟨others, carried, kept⟩ := List.perm_comp_forall₂ shuffled.symm (mapM_ok_iff.mp changed.symm)
  have again := right.substitute_eq_mapM values
  rw [mapM_ok_iff.mpr carried] at again
  obtain ⟨second, substituted, rfl⟩ := map_ok again
  exact ⟨second, substituted, kept.symm⟩

end Inputs

namespace Task.Reordered

variable {left right : Task} (reordered : left.Reordered right)

include reordered

theorem values : left.inputs.values = right.inputs.values := Inputs.values_perm reordered.inputs

theorem alike : left.Alike right where
  id := reordered.id
  instanceId := reordered.instanceId
  scripts phase := by rw [reordered.values]
  visible := by rw [reordered.values]

end Task.Reordered

theorem echo_ignoresOrder {m : Type → Type} [Monad m] : (Handler.echo : Handler m).IgnoresOrder := by
  intro left right reordered
  simp only [Handler.echo, echoed, reordered.values]

variable {σ α β : Type}

/-- Two errors name different inputs of the task, each of which is no template. -/
def Task.BlamedApart (task : Task) (one other : PipelineError) : Prop :=
  ∃ first second, one = .substitution first ∧ other = .substitution second ∧ first.input ≠ second.input ∧
    task.inputs.Faulty first ∧ task.inputs.Faulty second

/-- Both programs come to results that agree, or both fail in the same stage. Their errors are the same unless
several inputs of the task are no templates. -/
inductive Task.Concurring (task : Task) (agree : α → α → Prop) : Except PipelineError α → Except PipelineError α → Prop
  | passed {first second : α} (agreed : agree first second) : Concurring task agree (.ok first) (.ok second)
  | failed {one other : PipelineError} (stage : one.stage = other.stage)
    (blamed : one ≠ other → task.BlamedApart one other) : Concurring task agree (.error one) (.error other)

/-- From every world the programs come to one world, with results that concur. -/
def Task.Parallel (task : Task) (agree : α → α → Prop) (left right : Pipeline.Step (StateM σ) α) : Prop :=
  ∀ world, task.Concurring agree (conduct left world).1 (conduct right world).1 ∧
    (conduct left world).2 = (conduct right world).2

namespace Task.Parallel

variable {task : Task} {agree : α → α → Prop} {agreed : β → β → Prop}
  {left right : Pipeline.Step (StateM σ) α} {next other : α → Pipeline.Step (StateM σ) β}

theorem bind (first : task.Parallel agree left right)
    (rest : ∀ one two, agree one two → task.Parallel agreed (next one) (other two)) :
    task.Parallel agreed (left >>= next) (right >>= other) := by
  intro world
  obtain ⟨concurring, same⟩ := first world
  rcases one : conduct left world with ⟨result, middle⟩
  rcases two : conduct right world with ⟨result', middle'⟩
  rw [one, two] at concurring same
  cases same
  cases concurring with
  | passed agreed =>
    rw [conduct_bind_ok _ one, conduct_bind_ok _ two]
    exact rest _ _ agreed middle
  | failed stage blamed =>
    rw [conduct_bind_error _ one, conduct_bind_error _ two]
    exact ⟨.failed stage blamed, rfl⟩

theorem refl (program : Pipeline.Step (StateM σ) α) : task.Parallel Eq program program := by
  intro world
  refine ⟨?_, rfl⟩
  cases (conduct program world).1 with
  | ok value => exact .passed rfl
  | error error => exact .failed rfl fun differ => absurd rfl differ

theorem after {program : Pipeline.Step (StateM σ) α} (rest : ∀ value, task.Parallel agreed (next value) (other value)) :
    task.Parallel agreed (program >>= next) (program >>= other) := by
  apply (refl program).bind
  intro one two same
  rw [same]
  exact rest two

end Task.Parallel

namespace Pipeline

variable {pipeline : Pipeline (StateM σ)} {left right : Task}

/-- Either both tasks can be substituted, or each is stopped by an input of its own choice. -/
theorem substitute_reordered (reordered : left.Reordered right) (current : Values) :
    left.Parallel Task.Reordered (substitute left current : Step (StateM σ) Task) (substitute right current) := by
  intro world
  rw [conduct_substitute, conduct_substitute]
  refine ⟨?_, rfl⟩
  cases one : left.inputs.substitute current with
  | ok first =>
    obtain ⟨second, other, kept⟩ := Inputs.substitute_perm reordered.inputs one
    rw [other]
    exact .passed ⟨reordered.id, reordered.instanceId, kept⟩
  | error problem =>
    cases other : right.inputs.substitute current with
    | ok second =>
      obtain ⟨first, impossible, -⟩ := Inputs.substitute_perm reordered.inputs.symm other
      rw [one] at impossible
      cases impossible
    | error another =>
      have first := Inputs.faulty_of_substitute one
      have second := (Inputs.faulty_of_substitute other).of_perm reordered.inputs.symm
      refine .failed rfl fun differ => ⟨problem, another, rfl, rfl, ?_, first, second⟩
      intro same
      exact differ (congrArg PipelineError.substitution (first.unique second same))

end Pipeline

/-- What came about is the same but for the order of the inputs that the handler got. -/
structure Passage.Reordered (one other : Passage) : Prop where
  substituted : one.substituted.Reordered other.substituted
  others : { one with substituted := other.substituted } = other

namespace Pipeline

variable {pipeline : Pipeline (StateM σ)} {left right : Task} (ignores : pipeline.handler.IgnoresOrder)
  (reordered : left.Reordered right)

include ignores reordered

theorem tell_reordered : left.Parallel Passage.Reordered (pipeline.tell left) (pipeline.tell right) := by
  simp only [tell, enter_alike reordered.alike, reordered.values, reordered.instanceId]
  refine .after fun _ => .after fun snapshot => .after fun _ => .after fun told => ?_
  obtain ⟨before, first, token⟩ := told
  refine .after fun _ => .after fun _ => ?_
  apply (substitute_reordered reordered _).bind
  intro one other handed
  have same : pipeline.handle one = pipeline.handle other := by rw [handle, handle, ignores one other handed]
  rw [same]
  refine .after fun _ => .after fun handled => .after fun _ => .after fun _ => .after fun told => ?_
  obtain ⟨after, second, _⟩ := told
  refine .after fun _ => .after fun _ => ?_
  intro world
  exact ⟨.passed ⟨handed, rfl⟩, rfl⟩

theorem execute_reordered : left.Parallel Eq (pipeline.execute left) (pipeline.execute right) := by
  rw [execute_eq_tell, execute_eq_tell]
  apply (tell_reordered ignores reordered).bind
  intro one other same
  have left : pipeline.leave left one = pipeline.leave right other := by
    rw [← same.others]
    simp only [leave, enter_alike reordered.alike, reordered.instanceId]
  rw [left]
  exact .refl _

/-- The order of the inputs matters neither to the scripts of a task nor to what they see, and an invocation
has the same outcome and stores the same changes. Only if several inputs are no templates may another of
them be named by the error of substitution. -/
theorem order_of_inputs_does_not_matter :
    (∀ phase, Fragment.assemble left.inputs.values phase = Fragment.assemble right.inputs.values phase) ∧
    VisibleInputs.ofInputs left.inputs.values = VisibleInputs.ofInputs right.inputs.values ∧
    pipeline.execute left = pipeline.tell left >>= pipeline.leave left ∧
    pipeline.execute right = pipeline.tell right >>= pipeline.leave right ∧
    left.Parallel Passage.Reordered (pipeline.tell left) (pipeline.tell right) ∧
    left.Parallel Eq (pipeline.execute left) (pipeline.execute right) := by
  refine ⟨reordered.alike.scripts, ?_, pipeline.execute_eq_tell left, pipeline.execute_eq_tell right,
    tell_reordered ignores reordered, execute_reordered ignores reordered⟩
  rw [reordered.values]

omit ignores reordered

/-- A script before the handler and two inputs that are no templates. -/
def muddled : Task where
  inputs :=
    { entries := [("open", ⟨.string "\x7b\x7b.size", none⟩), ("prescript", ⟨.string "before", none⟩),
        ("spaced", ⟨.string "\x7b\x7b.a b\x7d\x7d", some "String"⟩)]
      distinct := by decide }

def turned : Task := muddled.withInputs ⟨muddled.inputs.entries.reverse, by decide⟩

/-- The script sets a variable, and the handler hands its inputs back. -/
def echoing : Pipeline (StateM (List Values)) :=
  { rehearsal SortedMap.empty [⟨"variables", "write", [some (.string "size"), some (.bool true)]⟩] [] with
    handler := Handler.echo }

/-- The input that an invocation stops at. -/
def stopsAt (result : Except PipelineError Outcome) : Option String :=
  match result with
  | .error (.substitution problem) => some problem.input
  | _ => none

theorem reordered_turned : muddled.Reordered turned where
  id := rfl
  instanceId := rfl
  inputs := (List.reverse_perm _).symm

theorem turned_task_stops_elsewhere :
    echoing.handler.IgnoresOrder ∧ muddled.Reordered turned ∧
    muddled.Parallel Eq (echoing.execute muddled) (echoing.execute turned) ∧
    ∃ one other, (conduct (echoing.execute muddled) []).1 = .error one ∧
      (conduct (echoing.execute turned) []).1 = .error other ∧ muddled.BlamedApart one other := by
  have ignores : echoing.handler.IgnoresOrder := echo_ignoresOrder
  have parallel := (order_of_inputs_does_not_matter ignores reordered_turned).2.2.2.2.2
  refine ⟨ignores, reordered_turned, parallel, ?_⟩
  have first : stopsAt (conduct (echoing.execute muddled) []).1 = some "open" := by decide +kernel
  have second : stopsAt (conduct (echoing.execute turned) []).1 = some "spaced" := by decide +kernel
  have concurring := (parallel []).1
  cases one : (conduct (echoing.execute muddled) []).1 with
  | ok outcome =>
    rw [one] at first
    cases first
  | error problem =>
    cases other : (conduct (echoing.execute turned) []).1 with
    | ok outcome =>
      rw [other] at second
      cases second
    | error another =>
      rw [one] at first
      rw [other] at second
      rw [one, other] at concurring
      cases concurring with
      | failed stage blamed =>
        refine ⟨problem, another, rfl, rfl, blamed ?_⟩
        intro same
        rw [same, second] at first
        exact absurd first (by decide)

end Pipeline
end ScriptedTask
