import ScriptedTask.Proofs.Variables

/-! An invocation told up to the point where it stores what scripts changed, with the dialogues of
both phases. The telling is no other execution: storing and leaving after it is executing. -/

namespace ScriptedTask

/-- What came about in an invocation before it stores anything. -/
structure Passage where
  snapshot : Values
  before : List Exchange
  /-- The variables from which references in the inputs are filled in. -/
  current : Values
  substituted : Task
  handled : Outcome
  after : List Exchange
  changes : Values
  outputs : Values

namespace Pipeline

/-- A pipeline with scripts that make given calls, one for the source `before` and one for all
others. Its world is the list of the changes that it stored. -/
def rehearsal (snapshot : Values) (before after : List Call) : Pipeline (StateM (List Values)) where
  handler := { handle := fun _ => pure (.ok {}), undo := fun _ _ => pure () }
  repository :=
    { load := fun _ => pure (.ok snapshot)
      store := fun _ changes stored => (.ok (), stored ++ [changes]) }
  interpreter _ _ source := .runs (.ofCalls (if source = "before" then before else after))
  observe _ _ := pure ()

variable {m : Type → Type} [Monad m]

/-- Runs the scripts of a phase, and tells their dialogue, too. -/
def tellPhase (pipeline : Pipeline m) (phase : Phase) (inputs snapshot outputs : Values)
    (token : TokenCache) : Step m (List Exchange × PhaseResult × TokenCache) :=
  ExceptT.mk do
    let (dialogue, result, session) ← Script.converse pipeline.interpreter pipeline.settings pipeline.tokens
      (Fragment.assemble inputs phase) (pipeline.session inputs snapshot outputs token)
    match result with
    | .ok () => return .ok (dialogue, session.outcome, session.token)
    | .error source => return .error (.script phase source)

/-- Carries a task through all stages before the last. -/
def tell (pipeline : Pipeline m) (task : Task) : Step m Passage := do
  let inputs := task.inputs.values
  pipeline.enter task .fetchContext
  let snapshot ← pipeline.load task.instanceId
  pipeline.enter task .runPreScripts
  let (before, first, token) ←
    pipeline.tellPhase .pre inputs snapshot SortedMap.empty { instanceId := task.instanceId }
  pipeline.enter task .mergeVariables
  let current := snapshot.overlay first.updates
  pipeline.enter task .substituteReferences
  let substituted ← substitute task current
  pipeline.enter task .invokeHandler
  let handled ← pipeline.handle substituted
  pipeline.enter task .mergeOutputs
  let outputs := first.outputs.overlay handled.outputs
  pipeline.enter task .runPostScripts
  let (after, second, _) ← pipeline.tellPhase .post inputs current outputs token
  pipeline.enter task .mergeFinal
  let changes := first.updates.overlay second.updates
  pipeline.enter task .persistIfChanged
  return { snapshot, before, current, substituted, handled, after, changes, outputs := second.outputs }

def leave (pipeline : Pipeline m) (task : Task) (passage : Passage) : Step m Outcome := do
  pipeline.persist task.instanceId passage.changes
  pipeline.enter task .done
  return { modules := passage.handled.modules, outputs := passage.outputs }

variable [LawfulMonad m]

theorem runPhase_eq_tellPhase (pipeline : Pipeline m) (phase : Phase) (inputs snapshot outputs : Values)
    (token : TokenCache) :
    pipeline.runPhase phase inputs snapshot outputs token =
      Prod.snd <$> pipeline.tellPhase phase inputs snapshot outputs token := by
  apply ExceptT.ext
  simp only [runPhase, tellPhase, Script.runSource_eq_converse, ExceptT.run_mk, ExceptT.run_map, bind_map_left,
    map_bind]
  refine bind_congr fun said => ?_
  rcases said with ⟨dialogue, source | _, session⟩ <;> simp [Except.map]

theorem execute_eq_tell (pipeline : Pipeline m) (task : Task) :
    pipeline.execute task = pipeline.tell task >>= pipeline.leave task := by
  simp only [execute, prepare, complete, tell, leave, runPhase_eq_tellPhase, bind_assoc, bind_map_left, pure_bind]

end Pipeline

/-- How a passage came about: which session each phase left. -/
structure Passage.Via {σ : Type} (pipeline : Pipeline (StateM σ)) (task : Task) (passage : Passage)
    (first second : Session) : Prop where
  loaded : ∃ world later, (pipeline.repository.load task.instanceId).run world = (.ok passage.snapshot, later)
  before : ∀ {τ} (faculty : Faculty τ), faculty.Speaks passage.before
    (pipeline.session task.inputs.values passage.snapshot SortedMap.empty { instanceId := task.instanceId }) first
  current : passage.current = passage.snapshot.overlay first.store.pending
  substituted : (task.inputs.substitute passage.current).map task.withInputs = .ok passage.substituted
  after : ∀ {τ} (faculty : Faculty τ), faculty.Speaks passage.after
    (pipeline.session task.inputs.values passage.current
      (first.outputs.values.overlay passage.handled.outputs) first.token) second
  changes : passage.changes = first.store.pending.overlay second.store.pending
  outputs : passage.outputs = second.outputs.values

namespace Pipeline

/-- The store in which a phase begins. -/
def opening {m : Type → Type} (pipeline : Pipeline m) (snapshot : Values) : Variables :=
  { current := snapshot, strict := pipeline.settings.strictDeref }

variable {σ : Type} {pipeline : Pipeline (StateM σ)} {task : Task} {world later : σ}

section Via

variable {passage : Passage} {first second : Session} (via : passage.Via pipeline task first second)

include via

theorem says_before : Variables.capability.Says passage.before (pipeline.opening passage.snapshot) first.store :=
  via.before .store

theorem says_after : Variables.capability.Says passage.after (pipeline.opening passage.current) second.store :=
  via.after .store

/-- The changes hold the last value of every name that was written in either phase. -/
theorem get?_changes (name : String) :
    passage.changes.get? name = lastWritten name (passage.before ++ passage.after) := by
  rw [via.changes, Ascending.get?_overlay, lastWritten_append, Variables.says_pending (says_before via),
    Variables.says_pending (says_after via)]

theorem isEmpty_changes : passage.changes.isEmpty = true ↔ writesOf (passage.before ++ passage.after) = [] := by
  rw [Ascending.isEmpty_iff, ← lastWritten_eq_none]
  simp only [get?_changes via]

end Via

theorem tellPhase_ok {phase : Phase} {inputs snapshot outputs : Values} {token : TokenCache}
    {dialogue : List Exchange} {result : PhaseResult} {kept : TokenCache}
    (told : conduct (pipeline.tellPhase phase inputs snapshot outputs token) world =
      (.ok (dialogue, result, kept), later)) :
    ∃ after : Session, result = after.outcome ∧ kept = after.token ∧
      ∀ {τ} (faculty : Faculty τ), faculty.Speaks dialogue (pipeline.session inputs snapshot outputs token) after := by
  obtain ⟨⟨said, ended, after⟩, middle, conversed, concluded⟩ := run_bind_eq told
  cases ended with
  | error source => cases concluded
  | ok _ =>
    cases concluded
    exact ⟨after, rfl, rfl, fun faculty => faculty.speaks_converse conversed⟩

theorem conduct_substitute (task : Task) (current : Values) (world : σ) :
    conduct (substitute task current) world =
      (((task.inputs.substitute current).map task.withInputs).mapError .substitution, world) := by
  unfold substitute
  cases task.inputs.substitute current <;> rfl

theorem substitute_ok {current : Values} {substituted : Task}
    (replaced : conduct (substitute task current) world = (.ok substituted, later)) :
    (task.inputs.substitute current).map task.withInputs = .ok substituted := by
  rw [conduct_substitute] at replaced
  cases found : (task.inputs.substitute current).map task.withInputs <;> rw [found] at replaced <;> cases replaced
  rfl

/-- The world once it knows that a task has entered a stage. -/
abbrev entering (pipeline : Pipeline (StateM σ)) (task : Task) (stage : Stage) (world : σ) : σ :=
  ((pipeline.observe (task.withInputs Inputs.empty) stage).run world).2

theorem conduct_enter_bind {α : Type} (stage : Stage) (next : Unit → Step (StateM σ) α) :
    conduct (pipeline.enter task stage >>= next) world =
      conduct (next ()) (pipeline.entering task stage world) := rfl

theorem load_ok {instanceId : String} {snapshot : Values}
    (loaded : conduct (pipeline.load instanceId) world = (.ok snapshot, later)) :
    (pipeline.repository.load instanceId).run world = (.ok snapshot, later) := conduct_consult_ok loaded

theorem tell_ok {passage : Passage} (told : conduct (pipeline.tell task) world = (.ok passage, later)) :
    ∃ first second, passage.Via pipeline task first second := by
  simp only [tell, conduct_enter_bind, conduct_bind_ok_iff] at told
  obtain ⟨snapshot, _, loaded, ⟨before, _, _⟩, _, spokenBefore, substituted, _, replaced, handled, _, _,
    ⟨after, _, _⟩, _, spokenAfter, ended⟩ := told
  obtain ⟨first, rfl, rfl, firstSpeaks⟩ := tellPhase_ok spokenBefore
  obtain ⟨second, rfl, rfl, secondSpeaks⟩ := tellPhase_ok spokenAfter
  cases ended
  exact ⟨first, second, ⟨_, _, load_ok loaded⟩, firstSpeaks, rfl, substitute_ok replaced, secondSpeaks, rfl, rfl⟩

end Pipeline
end ScriptedTask
