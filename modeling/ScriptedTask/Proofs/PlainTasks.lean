import ScriptedTask.Pipeline.Echo
import ScriptedTask.Proofs.BlankScripts
import ScriptedTask.Proofs.Substitution
import ScriptedTask.Proofs.Template.Rendering

/-! Tasks without scripts and references, in pipelines that wrap one another. Every pipeline hands such a task
on as it is and hands back what it is given, so of a stack of them nothing is noticed but that they
load variables. -/

namespace ScriptedTask

/-- No text among the inputs opens an action, and there is nothing to run in either phase. -/
structure Task.Plain (task : Task) : Prop where
  unopened : ∀ entry ∈ task.inputs.entries, ∀ text, entry.2.value = .string text → ¬['{', '{'] <:+: text.toList
  blank : ∀ phase, Text.isBlankText (Fragment.assemble task.inputs.values phase) = true

theorem Placeholders.render_unopened {text : String} (unopened : ¬['{', '{'] <:+: text.toList) (values : Values) :
    (ofVariables values).render text = .ok text := by
  apply Writing.render_ok_iff.mpr
  exact ⟨.text text.toList unopened, rfl, String.ofList_toList.symm⟩

namespace Task.Plain

variable {task : Task} (plain : task.Plain)

include plain

/-- Whatever the variables are, the inputs stay as they are. -/
theorem substitute (values : Values) : task.inputs.substitute values = .ok task.inputs := by
  rw [Inputs.substitute_ok_iff, List.forall₂_same]
  intro entry member
  have unopened := plain.unopened entry member
  obtain ⟨name, value, typeTag⟩ := entry
  cases value with
  | string text => exact .text (Placeholders.render_unopened (unopened text rfl) values)
  | _ => exact .other nofun

end Task.Plain

namespace Pipeline

variable {m : Type → Type} [Monad m]

/-- The steps of an invocation before its handler, if there is nothing to do but to load variables. -/
def approach (pipeline : Pipeline m) (task : Task) : Step m Unit := do
  pipeline.enter task .fetchContext
  let _ ← pipeline.load task.instanceId
  pipeline.enter task .runPreScripts
  pipeline.enter task .mergeVariables
  pipeline.enter task .substituteReferences
  pipeline.enter task .invokeHandler

/-- The steps of an invocation after its handler, if there is nothing to do. -/
def depart (pipeline : Pipeline m) (task : Task) : Step m Unit := do
  pipeline.enter task .mergeOutputs
  pipeline.enter task .runPostScripts
  pipeline.enter task .mergeFinal
  pipeline.enter task .persistIfChanged
  pipeline.enter task .done

variable [LawfulMonad m]

theorem execute_plain {pipeline : Pipeline m} {task : Task} (compatible : Query.Compatible pipeline.queries)
    (plain : task.Plain) :
    pipeline.execute task = do
      pipeline.approach task
      let handled ← pipeline.handle task
      pipeline.depart task
      return handled := by
  have same : ∀ current, (substitute task current : Step m Task) = pure task := by
    intro current
    rw [substitute, plain.substitute]
    rfl
  have unchanged : (SortedMap.empty : Values).isEmpty = true := rfl
  simp only [execute, prepare, complete, approach, depart, runPhase_blank compatible (plain.blank _), same, bind_assoc, pure_bind,
    Ascending.empty_overlay, persist, unchanged, if_true]

omit [LawfulMonad m] in
/-- An invocation within another: its failure is the failure of a handler. -/
def within {α : Type} (program : Step m α) : Step m α := ExceptT.adapt (fun error => .handler error.failure) program

section Within

variable {α β : Type}

theorem within_bind (first : Step m α) (next : α → Step m β) :
    within (first >>= next) = within first >>= fun value => within (next value) := by
  apply ExceptT.ext
  simp only [within, ExceptT.run_adapt, ExceptT.run_bind, map_bind, bind_map_left]
  refine bind_congr fun outcome => ?_
  cases outcome with
  | ok value => rfl
  | error error => exact map_pure _ _

theorem within_pure (value : α) : within (pure value : Step m α) = pure value := by
  apply ExceptT.ext
  rw [within, ExceptT.run_adapt, ExceptT.run_pure, map_pure]
  rfl

theorem within_enter (pipeline : Pipeline m) (task : Task) (stage : Stage) :
    within (pipeline.enter task stage) = pipeline.enter task stage := by
  apply ExceptT.ext
  simp only [within, enter, ExceptT.run_adapt, ExceptT.run_lift, Functor.map_map]
  rfl

theorem within_consult (action : m (Except Failure α)) : within (consult .handler action) = consult .handler action := by
  apply ExceptT.ext
  simp only [within, consult, ExceptT.run_adapt, ExceptT.run_mk, map_bind]
  refine bind_congr fun answer => ?_
  cases answer <;> exact map_pure _ _

theorem handle_asHandler (pipeline : Pipeline m) (task : Task) :
    consult .handler (pipeline.asHandler.handle task) = within (pipeline.execute task) := by
  apply ExceptT.ext
  simp only [within, consult, asHandler, ExceptT.run_adapt, ExceptT.run_mk, bind_assoc, map_eq_pure_bind]
  refine bind_congr fun outcome => ?_
  cases outcome <;> simp only [pure_bind] <;> rfl

theorem within_depart (pipeline : Pipeline m) (task : Task) : within (pipeline.depart task) = pipeline.depart task := by
  simp only [depart, within_bind, within_enter]

end Within

/-- The pipeline around another handler. -/
def around (pipeline : Pipeline m) (handler : Handler m) : Pipeline m := { pipeline with handler }

/-- A handler within pipelines, the outermost first. -/
def stack (handler : Handler m) : List (Pipeline m) → Handler m
  | [] => handler
  | pipeline :: rest => (pipeline.around (stack handler rest)).asHandler

/-- The way to the innermost handler. It loads the variables of every pipeline, and that may fail. -/
def descend (task : Task) : List (Pipeline m) → Step m Unit
  | [] => pure ()
  | pipeline :: rest => do
    pipeline.approach task
    within (descend task rest)

/-- The way back from the innermost handler. -/
def ascend (task : Task) : List (Pipeline m) → Step m Unit
  | [] => pure ()
  | pipeline :: rest => do
    ascend task rest
    pipeline.depart task

theorem within_ascend (task : Task) (layers : List (Pipeline m)) : within (ascend task layers) = ascend task layers := by
  induction layers with
  | nil => exact within_pure ()
  | cons pipeline rest ih => rw [ascend, within_bind, ih, within_depart]

/-- The innermost handler gets the task as it is, and what it hands back is handed back as it is. -/
def Passes (task : Task) (innermost : Handler m) (layers : List (Pipeline m)) : Prop :=
  consult .handler ((stack innermost layers).handle task) = do
    within (descend task layers)
    let handled ← consult .handler (innermost.handle task)
    ascend task layers
    return handled

variable {task : Task} {innermost : Handler m} {pipeline : Pipeline m} {layers : List (Pipeline m)}

/-- One more pipeline around a stack that passes the task on. -/
theorem Passes.execute (passes : Passes task innermost layers) (plain : task.Plain)
    (compatible : Query.Compatible pipeline.queries) :
    (pipeline.around (stack innermost layers)).execute task = do
      descend task (pipeline :: layers)
      let handled ← consult .handler (innermost.handle task)
      ascend task (pipeline :: layers)
      return handled := by
  have queries : Query.Compatible (pipeline.around (stack innermost layers)).queries := compatible
  have handled : (pipeline.around (stack innermost layers)).handle task = _ := passes
  rw [execute_plain queries plain, handled, descend, ascend]
  simp only [bind_assoc, pure_bind]
  rfl

theorem passes_stack (plain : task.Plain) (compatible : ∀ layer ∈ layers, Query.Compatible layer.queries) :
    Passes task innermost layers := by
  induction layers with
  | nil => simp [Passes, stack, descend, ascend, within_pure]
  | cons pipeline rest ih =>
    obtain ⟨first, others⟩ := List.forall_mem_cons.mp compatible
    rw [Passes, stack, handle_asHandler, (ih others).execute plain first]
    simp only [within_bind, within_consult, within_ascend, within_pure]

section Worlds

variable {σ τ α β : Type}

/-- The program leaves a part of the world as it was. -/
def Spares (part : σ → τ) (program : Step (StateM σ) α) : Prop :=
  ∀ world, part (conduct program world).2 = part world

/-- Of what the pipeline does besides handling, only storing variables can change the part of the world. -/
structure OnlyStores (part : σ → τ) (pipeline : Pipeline (StateM σ)) : Prop where
  loads : ∀ instanceId world, part ((pipeline.repository.load instanceId).run world).2 = part world
  observes : ∀ task stage world, part ((pipeline.observe task stage).run world).2 = part world

/-- The variables of the instance can be loaded at any time. -/
def Loads (pipeline : Pipeline (StateM σ)) (instanceId : String) : Prop :=
  ∀ world, ∃ snapshot later, (pipeline.repository.load instanceId).run world = (.ok snapshot, later)

variable {part : σ → τ}

theorem Spares.bind {first : Step (StateM σ) α} {next : α → Step (StateM σ) β} (spares : Spares part first)
    (rest : ∀ value, Spares part (next value)) : Spares part (first >>= next) := by
  intro world
  rcases ran : conduct first world with ⟨error | value, middle⟩
  · rw [conduct_bind_error _ ran, ← spares world, ran]
  · rw [conduct_bind_ok _ ran, rest value middle, ← spares world, ran]

theorem spares_pure (value : α) : Spares part (pure value : Step (StateM σ) α) := fun _ => rfl

theorem conduct_within (program : Step (StateM σ) α) (world : σ) :
    conduct (within program) world =
      ((conduct program world).1.mapError fun error => .handler error.failure, (conduct program world).2) := by
  rw [conduct, within, ExceptT.run_adapt]
  rfl

theorem Spares.within {program : Step (StateM σ) α} (spares : Spares part program) : Spares part (within program) := by
  intro world
  rw [conduct_within]
  exact spares world

theorem spares_consult {blame : Failure → PipelineError} {act : StateM σ (Except Failure α)}
    (spares : ∀ world, part (act.run world).2 = part world) : Spares part (consult blame act) := by
  intro world
  rcases acted : act.run world with ⟨answer, later⟩
  rw [conduct_consult blame acted, ← spares world, acted]

variable {task : Task} {pipeline : Pipeline (StateM σ)} {layers : List (Pipeline (StateM σ))}

section OnlyStores

variable (only : OnlyStores part pipeline)

include only

theorem OnlyStores.enter (stage : Stage) : Spares part (pipeline.enter task stage) :=
  fun world => only.observes _ stage world

theorem OnlyStores.approach : Spares part (pipeline.approach task) :=
  (only.enter _).bind fun _ => (spares_consult (only.loads task.instanceId)).bind fun _ => (only.enter _).bind fun _ =>
    (only.enter _).bind fun _ => (only.enter _).bind fun _ => only.enter _

theorem OnlyStores.depart : Spares part (pipeline.depart task) :=
  (only.enter _).bind fun _ => (only.enter _).bind fun _ => (only.enter _).bind fun _ => (only.enter _).bind fun _ =>
    only.enter _

end OnlyStores

theorem spares_descend (only : ∀ layer ∈ layers, OnlyStores part layer) : Spares part (descend task layers) := by
  induction layers with
  | nil => exact spares_pure ()
  | cons pipeline rest ih =>
    obtain ⟨first, others⟩ := List.forall_mem_cons.mp only
    exact first.approach.bind fun _ => (ih others).within

theorem spares_ascend (only : ∀ layer ∈ layers, OnlyStores part layer) : Spares part (ascend task layers) := by
  induction layers with
  | nil => exact spares_pure ()
  | cons pipeline rest ih =>
    obtain ⟨first, others⟩ := List.forall_mem_cons.mp only
    exact (ih others).bind fun _ => first.depart

theorem exists_depart (pipeline : Pipeline (StateM σ)) (task : Task) (world : σ) :
    ∃ later, conduct (pipeline.depart task) world = (.ok (), later) := ⟨_, rfl⟩

theorem exists_ascend (task : Task) (layers : List (Pipeline (StateM σ))) (world : σ) :
    ∃ later, conduct (ascend task layers) world = (.ok (), later) := by
  induction layers with
  | nil => exact ⟨world, rfl⟩
  | cons pipeline rest ih =>
    obtain ⟨middle, back⟩ := ih
    rw [ascend, conduct_bind_ok _ back]
    exact pipeline.exists_depart task middle

theorem exists_approach (loads : pipeline.Loads task.instanceId) (world : σ) :
    ∃ later, conduct (pipeline.approach task) world = (.ok (), later) := by
  obtain ⟨snapshot, middle, loaded⟩ := loads (pipeline.entering task .fetchContext world)
  rw [approach, conduct_enter_bind, load, conduct_bind_ok _ (conduct_consult _ loaded)]
  exact ⟨_, rfl⟩

theorem exists_descend (loads : ∀ layer ∈ layers, layer.Loads task.instanceId) (world : σ) :
    ∃ inner, conduct (descend task layers) world = (.ok (), inner) := by
  induction layers generalizing world with
  | nil => exact ⟨world, rfl⟩
  | cons pipeline rest ih =>
    obtain ⟨first, others⟩ := List.forall_mem_cons.mp loads
    obtain ⟨middle, reached⟩ := exists_approach first world
    obtain ⟨inner, descended⟩ := ih others middle
    refine ⟨inner, ?_⟩
    rw [descend, conduct_bind_ok _ reached, conduct_within, descended]
    rfl

/-- What there is to notice of pipelines around a handler that gets the task in the world `inner`. -/
structure SeenThrough (innermost : Handler (StateM σ)) (task : Task) (pipeline : Pipeline (StateM σ))
    (layers : List (Pipeline (StateM σ))) (world inner : σ) : Prop where
  reached : conduct (descend task (pipeline :: layers)) world = (.ok (), inner)
  outcome : ∀ {outcome after}, (innermost.handle task).run inner = (.ok outcome, after) →
    ∃ later, conduct ((pipeline.around (stack innermost layers)).execute task) world = (.ok outcome, later)
  failure : ∀ {failure after}, (innermost.handle task).run inner = (.error failure, after) →
    ∃ error, conduct ((pipeline.around (stack innermost layers)).execute task) world = (.error error, after) ∧
      error.stage = .invokeHandler ∧ error.failure = failure ∧ error.text = failure.text
  /-- Nothing changes that only storing variables could change. -/
  unwritten : ∀ {τ : Type} {part : σ → τ}, (∀ layer ∈ pipeline :: layers, OnlyStores part layer) →
    (∀ world, part ((innermost.handle task).run world).2 = part world) →
    part inner = part world ∧
      part (conduct ((pipeline.around (stack innermost layers)).execute task) world).2 = part world

variable {innermost : Handler (StateM σ)} {world inner : σ}

theorem Passes.seenThrough (passes : Passes task innermost layers) (plain : task.Plain)
    (compatible : Query.Compatible pipeline.queries)
    (reached : conduct (descend task (pipeline :: layers)) world = (.ok (), inner)) :
    SeenThrough innermost task pipeline layers world inner := by
  have program := passes.execute plain compatible
  refine ⟨reached, ?_, ?_, ?_⟩
  · intro outcome after handled
    obtain ⟨later, back⟩ := exists_ascend task (pipeline :: layers) after
    refine ⟨later, ?_⟩
    rw [program, conduct_bind_ok _ reached, conduct_bind_ok _ (conduct_consult _ handled), conduct_bind_ok _ back]
    rfl
  · intro failure after handled
    refine ⟨.handler failure, ?_, rfl, rfl, rfl⟩
    rw [program, conduct_bind_ok _ reached, conduct_bind_error _ (conduct_consult _ handled)]
  · intro τ part only unchanged
    have before : Spares part (descend task (pipeline :: layers)) := spares_descend only
    have back : Spares part (ascend task (pipeline :: layers)) := spares_ascend only
    constructor
    · rw [← before world, reached]
    · rw [program]
      exact (before.bind fun _ => (spares_consult unchanged).bind fun _ => back.bind fun _ => spares_pure _) world

/-- Pipelines around pipelines around a handler do not show when there is nothing to run and nothing to
fill in. The handler gets the task itself, what it hands back or fails with comes out as it is, and
no variables are stored anywhere. -/
theorem plain_tasks_pass_through (plain : task.Plain)
    (compatible : ∀ layer ∈ pipeline :: layers, Query.Compatible layer.queries)
    (loads : ∀ layer ∈ pipeline :: layers, layer.Loads task.instanceId) :
    (pipeline.around (stack innermost layers)).execute task = (do
      descend task (pipeline :: layers)
      let handled ← consult .handler (innermost.handle task)
      ascend task (pipeline :: layers)
      return handled) ∧
    ∀ world, ∃ inner, SeenThrough innermost task pipeline layers world inner := by
  obtain ⟨first, others⟩ := List.forall_mem_cons.mp compatible
  have passes : Passes task innermost layers := passes_stack plain others
  refine ⟨passes.execute plain first, ?_⟩
  intro world
  obtain ⟨inner, reached⟩ := exists_descend loads world
  exact ⟨inner, passes.seenThrough plain first reached⟩

end Worlds

/-- A task that opens no action and has a blank script, beside an input that is no text. -/
def unscripted : Task where
  inputs :=
    { entries := [("note", ⟨.string "a {.size}", some "String"⟩), ("prescript", ⟨.string " ", none⟩),
        ("flag", ⟨.bool true, some "Boolean"⟩)]
      distinct := by decide }

theorem plain_unscripted : unscripted.Plain where
  unopened := by
    intro entry member text isText
    simp only [unscripted, List.mem_cons, List.not_mem_nil, or_false] at member
    rcases member with rfl | rfl | rfl <;> cases isText <;> decide +kernel
  blank phase := by cases phase <;> decide +kernel

/-- A pipeline with a query and variables of its own. -/
def located (name : String) : Pipeline (StateM (List Values)) :=
  { rehearsal (SortedMap.ofList [(name, .bool true)]) [] [] with
    queries := [⟨"geo", ["locate"], fun _ _ => .answer (.ok .null)⟩] }

/-- What stands between the outermost pipeline and the handler. -/
def nested : List (Pipeline (StateM (List Values))) := [located "b", located "c"]

theorem located_of_mem {layer : Pipeline (StateM (List Values))} (member : layer ∈ located "a" :: nested) :
    ∃ name, layer = located name := by
  simp only [nested, List.mem_cons, List.not_mem_nil, or_false] at member
  rcases member with rfl | rfl | rfl <;> exact ⟨_, rfl⟩

theorem compatible_located (name : String) : Query.Compatible (located name).queries where
  distinct := List.nodup_cons.mpr ⟨List.not_mem_nil, List.nodup_nil⟩
  unreserved := by
    intro query member
    rw [located, List.mem_singleton] at member
    rw [member]
    decide

theorem nested_pass_through :
    conduct (((located "a").around (stack Handler.echo nested)).execute unscripted) [] =
      (.ok (echoed unscripted), []) := by
  have compatible : ∀ layer ∈ located "a" :: nested, Query.Compatible layer.queries := by
    intro layer member
    obtain ⟨name, rfl⟩ := located_of_mem member
    exact compatible_located name
  have loads : ∀ layer ∈ located "a" :: nested, layer.Loads unscripted.instanceId := by
    intro layer member world
    obtain ⟨name, rfl⟩ := located_of_mem member
    exact ⟨_, _, rfl⟩
  have only : ∀ layer ∈ located "a" :: nested, OnlyStores id layer := by
    intro layer member
    obtain ⟨name, rfl⟩ := located_of_mem member
    exact ⟨fun _ _ => rfl, fun _ _ _ => rfl⟩
  obtain ⟨inner, seen⟩ : ∃ inner, SeenThrough Handler.echo unscripted (located "a") nested [] inner :=
    (plain_tasks_pass_through plain_unscripted compatible loads).2 []
  obtain ⟨later, done⟩ := seen.outcome rfl
  have unwritten := (seen.unwritten only fun _ => rfl).2
  rw [done] at unwritten ⊢
  exact congrArg _ unwritten

end Pipeline
end ScriptedTask
