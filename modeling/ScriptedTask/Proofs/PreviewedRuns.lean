import ScriptedTask.Proofs.AllOrNothing
import ScriptedTask.Proofs.BlankScripts
import ScriptedTask.Proofs.OutputsByPhase
import ScriptedTask.Proofs.Preview
import ScriptedTask.Script.Interpreter
import ScriptedTask.Storage.Tree
import ScriptedTask.Worker.Report

/-! Previews against the runs that they stand for. As long as scripts before the handler set no variable,
references are filled in from the variables that were loaded, and so the preview has what the handler gets. -/

namespace ScriptedTask

/-- The invocation fails at no stage up to this one. -/
def Stage.PassedBy (stage : Stage) (result : Except PipelineError Outcome) : Prop :=
  ∀ error, result = .error error → stage.position < error.stage.position

namespace Pipeline

variable {σ : Type}

/-- Before the handler there is nothing to run, or a script that comes to its end and sets no variable. -/
def HoldsBack (pipeline : Pipeline (StateM σ)) (task : Task) (snapshot : Values) (world : σ) : Prop :=
  Text.isBlankText (Fragment.assemble task.inputs.values .pre) = true ∨
    ∃ dialogue told later,
      conduct (pipeline.tellPhase .pre task.inputs.values snapshot SortedMap.empty { instanceId := task.instanceId })
        world = (.ok (dialogue, told), later) ∧ writesOf dialogue = []

/-- The handler hands its inputs back, and nobody is told of stages. -/
structure Echoes (pipeline : Pipeline (StateM σ)) : Prop where
  handler : pipeline.handler = Handler.echo
  observe : pipeline.observe = fun _ _ => pure ()

variable {pipeline : Pipeline (StateM σ)} {task : Task} {snapshot : Values} {world middle later : σ} {midway : Midway}
  {error : PipelineError}

theorem HoldsBack.told (holdsBack : pipeline.HoldsBack task snapshot world)
    (compatible : Query.Compatible pipeline.queries) :
    ∃ dialogue outputs token later,
      conduct (pipeline.tellPhase .pre task.inputs.values snapshot SortedMap.empty { instanceId := task.instanceId })
        world = (.ok (dialogue, ⟨SortedMap.empty, outputs⟩, token), later) := by
  rcases holdsBack with blank | ⟨dialogue, ⟨result, token⟩, later, told, unwritten⟩
  · rw [tellPhase_blank compatible blank]
    exact ⟨_, _, _, _, rfl⟩
  · obtain ⟨after, rfl, -, speaks⟩ := tellPhase_ok told
    have said : Variables.capability.Says dialogue (pipeline.opening snapshot) after.store := speaks .store
    have untouched : after.store.pending = SortedMap.empty := by
      apply Ascending.ext_get?
      intro name
      rw [Variables.says_pending said, lastWritten_eq_none.mpr unwritten, Ascending.get?_empty]
    refine ⟨dialogue, after.outputs.values, token, later, ?_⟩
    rw [told, Session.outcome, untouched]

section Echoes

variable (echoes : pipeline.Echoes)

include echoes

theorem Echoes.enter_bind {α : Type} (stage : Stage) (next : Unit → Step (StateM σ) α) :
    conduct (pipeline.enter task stage >>= next) world = conduct (next ()) world := by
  rw [conduct_enter_bind, entering, echoes.observe]
  rfl

theorem Echoes.handle_bind {α : Type} (next : Outcome → Step (StateM σ) α) :
    conduct (pipeline.handle task >>= next) world = conduct (next (echoed task)) world := by
  have handled : (pipeline.handler.handle task).run world = (.ok (echoed task), world) := by
    rw [echoes.handler]
    rfl
  rw [handle, conduct_bind_ok _ (conduct_consult _ handled)]

theorem Echoes.unloaded {failure : Failure}
    (loaded : (pipeline.repository.load task.instanceId).run world = (.error failure, middle)) :
    conduct (pipeline.halfway task) world = (.error (.fetchVariables task.instanceId failure), middle) := by
  rw [halfway, echoes.enter_bind, load, conduct_bind_error _ (conduct_consult _ loaded)]

/-- What is set before the handler does not matter to it if it is not a variable. -/
theorem Echoes.loaded (loaded : (pipeline.repository.load task.instanceId).run world = (.ok snapshot, middle))
    (compatible : Query.Compatible pipeline.queries) (holdsBack : pipeline.HoldsBack task snapshot middle) :
    ∃ later, match task.inputs.substitute snapshot with
      | .error problem => conduct (pipeline.halfway task) world = (.error (.substitution problem), later)
      | .ok changed => ∃ midway, conduct (pipeline.halfway task) world = (.ok midway, later) ∧
          midway.handled = echoed (task.withInputs changed) := by
  obtain ⟨dialogue, outputs, token, later, told⟩ := holdsBack.told compatible
  have opening : conduct (pipeline.load task.instanceId) world = (.ok snapshot, middle) := conduct_consult _ loaded
  refine ⟨later, ?_⟩
  have unwritten : snapshot.overlay SortedMap.empty = snapshot := rfl
  simp only [halfway, echoes.enter_bind, conduct_bind_ok _ opening, conduct_bind_ok _ told, unwritten]
  cases substituted : task.inputs.substitute snapshot with
  | error problem =>
    have stopped : conduct (substitute task snapshot) later = (.error (.substitution problem), later) := by
      rw [conduct_substitute, substituted]
      rfl
    exact conduct_bind_error _ stopped
  | ok changed =>
    have replaced : conduct (substitute task snapshot) later = (.ok (task.withInputs changed), later) := by
      rw [conduct_substitute, substituted]
      rfl
    simp only [conduct_bind_ok _ replaced, echoes.enter_bind, echoes.handle_bind]
    exact ⟨_, rfl, rfl⟩

end Echoes

theorem execute_of_halfway_error (stopped : conduct (pipeline.halfway task) world = (.error error, later)) :
    conduct (pipeline.execute task) world = (.error error, later) := by
  rw [execute_eq_halfway, conduct_bind_error _ stopped]

theorem persist_error {instanceId : String} {changes : Values}
    (refused : conduct (pipeline.persist instanceId changes) world = (.error error, later)) :
    error.stage = .persistIfChanged := by
  rw [persist] at refused
  split at refused
  · cases refused
  · rcases stored : (pipeline.repository.store instanceId changes).run world with ⟨answer, after⟩
    rw [conduct_consult _ stored] at refused
    cases answer <;> cases refused
    rfl

theorem conclude_error {spoken : List Exchange × Except ScriptError Unit × Session}
    (ended : conduct (pipeline.conclude task midway spoken) world = (.error error, later)) :
    error.stage = .runPostScripts ∨ error.stage = .persistIfChanged := by
  obtain ⟨dialogue, source | _, session⟩ := spoken
  · cases ended
    exact .inl rfl
  · rw [conclude, conduct_enter_bind, conduct_enter_bind] at ended
    rcases conduct_bind_cases ended with ⟨problem, refused, same⟩ | ⟨done, middle, -, rest⟩
    · cases same
      exact .inr (persist_error refused)
    · cases rest

/-- Once the handler has returned, no stage up to it can fail. -/
theorem passedBy_of_halfway (reached : conduct (pipeline.halfway task) world = (.ok midway, middle)) :
    Stage.substituteReferences.PassedBy (conduct (pipeline.execute task) world).1 := by
  intro error failed
  rcases ran : conduct (pipeline.execute task) world with ⟨result, later⟩
  rw [ran] at failed
  subst failed
  rw [execute_eq_halfway, conduct_bind_ok _ reached] at ran
  rcases conduct_bind_cases ran with ⟨problem, lifted, -⟩ | ⟨spoken, between, -, concluded⟩
  · cases lifted
  · rcases conclude_error concluded with late | late <;> rw [late] <;> decide

end Pipeline

namespace Preview

variable {task : Task}

/-- A preview, beside the part of the run before the scripts after the handler, and the run. -/
inductive Course (task : Task) : Except Failure Values → Except Failure Preview → Except PipelineError Midway →
    Except PipelineError Outcome → Prop
  | unloaded (failure : Failure) : Course task (.error failure) (.error failure)
      (.error (.fetchVariables task.instanceId failure)) (.error (.fetchVariables task.instanceId failure))
  | stopped {values : Values} {problem : SubstitutionError} (found : task.inputs.substitute values = .error problem) :
      Course task (.ok values) (.error problem.failure) (.error (.substitution problem))
        (.error (.substitution problem))
  | shown {values : Values} {preview : Preview} {midway : Midway} {ran : Except PipelineError Outcome}
      (handled : midway.handled.outputs = SortedMap.ofList [("inputs", .object preview.inputs)])
      (passed : Stage.substituteReferences.PassedBy ran) : Course task (.ok values) (.ok preview) (.ok midway) ran

/-- What the preview says of the run. -/
structure Foretells (task : Task) (loaded : Except Failure Values) (previewed : Except Failure Preview)
    (reached : Except PipelineError Midway) (ran : Except PipelineError Outcome) : Prop where
  passes : (∃ preview, previewed = .ok preview) ↔ Stage.substituteReferences.PassedBy ran
  /-- The handler returns the inputs of the preview and no other output. -/
  shown : ∀ preview, previewed = .ok preview →
    ∃ midway, reached = .ok midway ∧ midway.handled.outputs = SortedMap.ofList [("inputs", .object preview.inputs)]
  /-- A preview that fails does so for the same reason as the run. -/
  failed : ∀ failure, previewed = .error failure →
    loaded = .error failure ∧ ran = .error (.fetchVariables task.instanceId failure) ∨
      ∃ problem, failure = problem.failure ∧ ran = .error (.substitution problem)
  /-- Substitution stops both at the same input, and for the same reason. -/
  stopped : ∀ problem, ran = .error (.substitution problem) ↔
    previewed = .error problem.failure ∧
      ∃ values, loaded = .ok values ∧ task.inputs.substitute values = .error problem
  unloaded : ∀ failure, loaded = .error failure →
    previewed = .error failure ∧ ran = .error (.fetchVariables task.instanceId failure)

variable {loaded : Except Failure Values} {previewed : Except Failure Preview} {reached : Except PipelineError Midway}
  {ran : Except PipelineError Outcome}

theorem not_passedBy_self (error : PipelineError) : ¬error.stage.PassedBy (.error error) :=
  fun passed => absurd (passed error rfl) (Nat.lt_irrefl _)

theorem Course.foretells (course : Course task loaded previewed reached ran) :
    Foretells task loaded previewed reached ran := by
  cases course with
  | unloaded failure =>
    refine ⟨iff_of_false (by simp) ?_, by simp, by simp, by simp, by simp⟩
    intro passed
    have late : Stage.substituteReferences.position < Stage.fetchContext.position := passed _ rfl
    exact absurd late (by decide)
  | @stopped values problem found =>
    refine ⟨iff_of_false (by simp) ?_, by simp, ?_, ?_, by simp⟩
    · exact not_passedBy_self (.substitution problem)
    · intro failure same
      exact .inr ⟨problem, (Except.error.inj same).symm, rfl⟩
    · intro other
      constructor
      · intro same
        cases same
        exact ⟨rfl, values, rfl, found⟩
      · rintro ⟨-, _, same, again⟩
        cases same
        rw [found] at again
        cases again
        rfl
  | @shown values preview midway ran handled passed =>
    refine ⟨iff_of_true ⟨preview, rfl⟩ passed, ?_, by simp, ?_, by simp⟩
    · intro other same
      cases same
      exact ⟨midway, rfl, handled⟩
    · intro problem
      refine iff_of_false ?_ (by simp)
      rintro rfl
      exact not_passedBy_self (.substitution problem) passed

variable {σ : Type} {pipeline : Pipeline (StateM σ)} {world : σ}

theorem course (echoes : pipeline.Echoes) (compatible : Query.Compatible pipeline.queries)
    (quiet : ∀ snapshot middle, (pipeline.repository.load task.instanceId).run world = (.ok snapshot, middle) →
      pipeline.HoldsBack task snapshot middle) :
    Course task ((pipeline.repository.load task.instanceId).run world).1 ((ofTask pipeline.repository task).run world).1
      (conduct (pipeline.halfway task) world).1 (conduct (pipeline.execute task) world).1 := by
  rcases called : (pipeline.repository.load task.instanceId).run world with ⟨failure | values, middle⟩
  · have stopped := echoes.unloaded called
    rw [run_unloaded called, stopped, Pipeline.execute_of_halfway_error stopped]
    exact .unloaded failure
  · obtain ⟨later, went⟩ := echoes.loaded called compatible (quiet values middle called)
    rw [run_loaded called]
    cases substituted : task.inputs.substitute values with
    | error problem =>
      rw [substituted] at went
      have previewed : ofVariables task values = .error problem.failure := by rw [ofVariables, substituted]
      rw [previewed, went, Pipeline.execute_of_halfway_error went]
      exact .stopped substituted
    | ok changed =>
      rw [substituted] at went
      obtain ⟨midway, reached, handled⟩ := went
      have previewed : ofVariables task values = .ok ⟨changed.values, unknownNames task.inputs values⟩ := by
        rw [ofVariables, substituted]
      have passed := Pipeline.passedBy_of_halfway reached
      rw [previewed, reached]
      refine .shown ?_ passed
      rw [handled]
      rfl

end Preview

namespace Worker

theorem echoes_pipeline {σ : Type} (interpreter : Script.Interpreter) (settings : RunSettings)
    (files : FileAccess (StateM σ)) (path : String) (queries : List Query) :
    (pipeline interpreter settings files path queries).Echoes := ⟨rfl, rfl⟩

/-- If no script before the handler sets a variable, a preview succeeds just if a run from the same file
gets past substitution, and its inputs are those that the handler of the run hands back. If substitution
stops the one, it stops the other at the same input. -/
theorem preview_shows_what_is_handed_over {σ : Type} {interpreter : Script.Interpreter} {settings : RunSettings}
    {files : FileAccess (StateM σ)} {path : String} {queries : List Query} {task : Task} {world : σ}
    (compatible : Query.Compatible queries)
    (quiet : ∀ snapshot middle,
      ((VariableFile.repository files path).load task.instanceId).run world = (.ok snapshot, middle) →
        (pipeline interpreter settings files path queries).HoldsBack task snapshot middle) :
    (pipeline interpreter settings files path queries).execute task =
      ((pipeline interpreter settings files path queries).halfway task >>= fun midway =>
        ExceptT.lift ((pipeline interpreter settings files path queries).converseAfter task midway) >>=
          (pipeline interpreter settings files path queries).conclude task midway) ∧
    Preview.Foretells task (((VariableFile.repository files path).load task.instanceId).run world).1
      ((Preview.ofTask (VariableFile.repository files path) task).run world).1
      (conduct ((pipeline interpreter settings files path queries).halfway task) world).1
      (conduct ((pipeline interpreter settings files path queries).execute task) world).1 := by
  have echoes := echoes_pipeline interpreter settings files path queries
  refine ⟨Pipeline.execute_eq_halfway _ task, ?_⟩
  exact (Preview.course echoes compatible quiet).foretells

/-- A task that looks at a variable before it refers to it. -/
def looker : Task where
  instanceId := "i"
  inputs :=
    { entries := [("prescript", ⟨.string "variables.read('name');", none⟩),
        ("label", ⟨.string "a \x7b\x7b.name\x7d\x7d", some "String"⟩)]
      distinct := by decide }

def oneLamp : FileTree :=
  ⟨SortedMap.ofList [("variables.json", .file "\x7b\"i\":\x7b\"name\":\"lamp\"\x7d\x7d")], []⟩

/-- A worker on that file. -/
def onLamp : Pipeline (StateM FileTree) := pipeline Script.interpret {} FileTree.access "variables.json" []

/-- The script before the handler comes to its end and writes nothing. -/
def isQuiet (pipeline : Pipeline (StateM FileTree)) (task : Task) (tree : FileTree) : Bool :=
  match (pipeline.repository.load task.instanceId).run tree with
  | (.error _, _) => true
  | (.ok snapshot, middle) =>
    match conduct (pipeline.tellPhase .pre task.inputs.values snapshot SortedMap.empty
      { instanceId := task.instanceId }) middle with
    | (.ok (dialogue, _), _) => (writesOf dialogue).isEmpty
    | (.error _, _) => false

theorem holdsBack_of_isQuiet {pipeline : Pipeline (StateM FileTree)} {task : Task} {tree middle : FileTree}
    {snapshot : Values} (silent : isQuiet pipeline task tree = true)
    (loaded : (pipeline.repository.load task.instanceId).run tree = (.ok snapshot, middle)) :
    pipeline.HoldsBack task snapshot middle := by
  rw [isQuiet, loaded] at silent
  simp only at silent
  split at silent
  next dialogue told later spoken => exact .inr ⟨dialogue, told, later, spoken, List.isEmpty_iff.mp silent⟩
  next => cases silent

/-- The label that a preview shows. -/
def labelIn (previewed : Except Failure Preview) : Option String :=
  match previewed with
  | .error _ => none
  | .ok preview =>
    match preview.inputs.get? "label" with
    | some (.string text) => some text
    | _ => none

set_option maxRecDepth 100000 in
theorem looker_runs : isQuiet onLamp looker oneLamp = true ∧
    labelIn ((Preview.ofTask onLamp.repository looker).run oneLamp).1 = some "a lamp" := by
  decide +kernel

theorem looker_is_shown_the_lamp : ∃ preview midway,
    labelIn (.ok preview) = some "a lamp" ∧
      ((Preview.ofTask onLamp.repository looker).run oneLamp).1 = .ok preview ∧
      (conduct (onLamp.halfway looker) oneLamp).1 = .ok midway ∧
      midway.handled.outputs = SortedMap.ofList [("inputs", .object preview.inputs)] := by
  obtain ⟨quiet, labelled⟩ := looker_runs
  have compatible : Query.Compatible [] := ⟨List.nodup_nil, by simp⟩
  have foretells := (preview_shows_what_is_handed_over compatible fun _ _ loaded =>
    holdsBack_of_isQuiet quiet loaded).2
  cases previewed : ((Preview.ofTask onLamp.repository looker).run oneLamp).1 with
  | error problem =>
    rw [previewed] at labelled
    cases labelled
  | ok preview =>
    rw [previewed] at labelled
    obtain ⟨midway, reached, handled⟩ := foretells.shown preview previewed
    exact ⟨preview, midway, labelled, rfl, reached, handled⟩

end Worker
end ScriptedTask
