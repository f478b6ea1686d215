import ScriptedTask.Proofs.Outputs
import ScriptedTask.Proofs.Passage

/-! The outputs of an invocation by phase. Scripts after the handler replace what the handler returned, and
the handler replaces what scripts before it set. The scripts after the handler see the outputs in this way
while they run, whether or not the invocation succeeds in the end. -/

namespace ScriptedTask

/-- What an output is, told from what the scripts of both phases said and what the handler returned. -/
def outputByPhase (name : String) (before : List Exchange) (handled : Values) (after : List Exchange) : Option Json :=
  (lastSet name after).or ((handled.get? name).or (lastSet name before))

/-- What an invocation hands to the scripts after the handler, and what came about before. -/
structure Midway where
  before : List Exchange
  updates : Values
  current : Values
  substituted : Task
  handled : Outcome
  outputs : Values
  token : TokenCache

namespace Pipeline

section Halves

variable {m : Type → Type} [Monad m]

/-- Carries a task to the scripts after the handler. -/
def halfway (pipeline : Pipeline m) (task : Task) : Step m Midway := do
  let inputs := task.inputs.values
  pipeline.enter task .fetchContext
  let snapshot ← pipeline.load task.instanceId
  pipeline.enter task .runPreScripts
  let (before, first, token) ←
    pipeline.tellPhase .pre inputs snapshot SortedMap.empty { instanceId := task.instanceId }
  pipeline.enter task .mergeVariables
  let current := snapshot.overlay first.updates
  pipeline.enter task .substituteReferences
  let substituted ← substitute task current
  pipeline.enter task .invokeHandler
  let handled ← pipeline.handle substituted
  pipeline.enter task .mergeOutputs
  let outputs := first.outputs.overlay handled.outputs
  pipeline.enter task .runPostScripts
  return { before, updates := first.updates, current, substituted, handled, outputs, token }

/-- Runs the scripts after the handler, and tells their dialogue also if they fail. -/
def converseAfter (pipeline : Pipeline m) (task : Task) (midway : Midway) :
    m (List Exchange × Except ScriptError Unit × Session) :=
  Script.converse pipeline.interpreter pipeline.settings pipeline.tokens
    (Fragment.assemble task.inputs.values .post)
    (pipeline.session task.inputs.values midway.current midway.outputs midway.token)

def conclude (pipeline : Pipeline m) (task : Task) (midway : Midway) :
    List Exchange × Except ScriptError Unit × Session → Step m Outcome
  | (_, .error source, _) => throw (.script .post source)
  | (_, .ok _, session) => do
    pipeline.enter task .mergeFinal
    pipeline.enter task .persistIfChanged
    pipeline.persist task.instanceId (midway.updates.overlay session.store.pending)
    pipeline.enter task .done
    return { modules := midway.handled.modules, outputs := session.outputs.values }

theorem tellPhase_bind [LawfulMonad m] {α : Type} (pipeline : Pipeline m) (phase : Phase)
    (inputs snapshot outputs : Values) (token : TokenCache)
    (next : List Exchange × PhaseResult × TokenCache → Step m α) :
    pipeline.tellPhase phase inputs snapshot outputs token >>= next =
      ExceptT.lift (Script.converse pipeline.interpreter pipeline.settings pipeline.tokens
        (Fragment.assemble inputs phase) (pipeline.session inputs snapshot outputs token)) >>=
        fun (dialogue, result, session) =>
          match result with
          | .ok _ => next (dialogue, session.outcome, session.token)
          | .error source => throw (.script phase source) := by
  apply ExceptT.ext
  simp only [tellPhase, ExceptT.run_bind, ExceptT.run_lift, ExceptT.run_mk, bind_assoc, bind_map_left]
  refine bind_congr fun spoken => ?_
  rcases spoken with ⟨dialogue, source | _, session⟩ <;> simp

theorem execute_eq_halfway [LawfulMonad m] (pipeline : Pipeline m) (task : Task) :
    pipeline.execute task = pipeline.halfway task >>= fun midway =>
      ExceptT.lift (pipeline.converseAfter task midway) >>= pipeline.conclude task midway := by
  simp only [execute, prepare, complete, halfway, runPhase_eq_tellPhase, bind_assoc, bind_map_left, pure_bind]
  have later : ∀ midway : Midway,
      ExceptT.lift (pipeline.converseAfter task midway) >>= pipeline.conclude task midway =
        pipeline.tellPhase .post task.inputs.values midway.current midway.outputs midway.token >>= fun told => do
          pipeline.enter task .mergeFinal
          pipeline.enter task .persistIfChanged
          pipeline.persist task.instanceId (midway.updates.overlay told.2.1.updates)
          pipeline.enter task .done
          return { modules := midway.handled.modules, outputs := told.2.1.outputs } := by
    intro midway
    rw [tellPhase_bind]
    refine bind_congr fun spoken => ?_
    rcases spoken with ⟨dialogue, source | _, session⟩ <;> rfl
  simp only [later]

end Halves

variable {σ : Type} {pipeline : Pipeline (StateM σ)} {task : Task} {world middle : σ} {midway : Midway}

/-- The handler returned what is handed on, and the outputs at the start of the scripts after it are its own
over those that the scripts before it set. -/
theorem halfway_ok (reached : conduct (pipeline.halfway task) world = (.ok midway, middle)) :
    (∃ first second, (pipeline.handler.handle midway.substituted).run first = (.ok midway.handled, second)) ∧
      ∀ name, midway.outputs.get? name = (midway.handled.outputs.get? name).or (lastSet name midway.before) := by
  simp only [halfway, conduct_enter_bind, conduct_bind_ok_iff] at reached
  obtain ⟨snapshot, _, _, ⟨before, _, _⟩, _, told, substituted, _, _, handled, _, worked, ended⟩ := reached
  obtain ⟨first, rfl, rfl, speaks⟩ := tellPhase_ok told
  cases ended
  refine ⟨⟨_, _, conduct_consult_ok worked⟩, ?_⟩
  intro name
  have said : Outputs.capability.Says before ⟨SortedMap.empty⟩ first.outputs := speaks .outputs
  have set := Outputs.get?_says said name
  rw [Ascending.get?_empty, Option.or_none] at set
  rw [Ascending.get?_overlay, ← set]
  rfl

section Spoken

variable {later : σ} {dialogue : List Exchange} {result : Except ScriptError Unit} {session : Session}
  (reached : conduct (pipeline.halfway task) world = (.ok midway, middle))
  (spoken : (pipeline.converseAfter task midway).run middle = ((dialogue, result, session), later))

include reached spoken

theorem get?_after (name : String) :
    session.outputs.values.get? name = outputByPhase name midway.before midway.handled.outputs dialogue := by
  have said : Outputs.capability.Says dialogue ⟨midway.outputs⟩ session.outputs :=
    Faculty.outputs.speaks_converse spoken
  rw [outputByPhase, ← (halfway_ok reached).2, Outputs.get?_says said]

/-- A script that looks for an output finds what the phases have made of it so far. -/
theorem looked_after {said rest : List Exchange} {call : Call} {answer : Answer} {name : String}
    (parts : dialogue = said ++ ⟨call, answer⟩ :: rest) (addressed : call.target = Outputs.capability.target)
    (looks : call.method = "get") (text : call.text 0 = .ok name) :
    answer = .ok (outputByPhase name midway.before midway.handled.outputs said) := by
  have whole : Outputs.capability.Says dialogue ⟨midway.outputs⟩ session.outputs :=
    Faculty.outputs.speaks_converse spoken
  rw [parts] at whole
  obtain ⟨outputs, first, others⟩ := Capability.says_append.mp whole
  rw [Capability.says_cons, if_pos addressed] at others
  obtain ⟨next, invoked, -⟩ := others
  rw [Outputs.invoke_get looks text] at invoked
  cases invoked
  rw [outputByPhase, ← (halfway_ok reached).2, Outputs.get?_says first]

end Spoken

/-- An invocation that got through, with what was said on the way. -/
structure Passed (pipeline : Pipeline (StateM σ)) (task : Task) (world : σ) (outcome : Outcome) (midway : Midway)
    (dialogue : List Exchange) : Prop where
  spoken : ∃ middle session later, conduct (pipeline.halfway task) world = (.ok midway, middle) ∧
    (pipeline.converseAfter task midway).run middle = ((dialogue, .ok (), session), later)
  handled : ∃ first second, (pipeline.handler.handle midway.substituted).run first = (.ok midway.handled, second)
  modules : outcome.modules = midway.handled.modules
  outputs : ∀ name, outcome.outputs.get? name = outputByPhase name midway.before midway.handled.outputs dialogue

theorem exists_passed {outcome : Outcome} {last : σ} (executed : conduct (pipeline.execute task) world = (.ok outcome, last)) :
    ∃ midway dialogue, pipeline.Passed task world outcome midway dialogue := by
  rw [execute_eq_halfway, conduct_bind_ok_iff] at executed
  obtain ⟨midway, middle, reached, executed⟩ := executed
  obtain ⟨⟨dialogue, result, session⟩, later, lifted, concluded⟩ := conduct_bind_ok_iff.mp executed
  have spoken := conduct_lift_ok lifted
  cases result with
  | error source => cases concluded
  | ok _ =>
    simp only [conclude, conduct_enter_bind, conduct_bind_ok_iff] at concluded
    obtain ⟨_, _, _, ended⟩ := concluded
    cases ended
    exact ⟨midway, dialogue, ⟨middle, session, later, reached, spoken⟩, (halfway_ok reached).1, rfl,
      get?_after reached spoken⟩

/-- Scripts after the handler are told the outputs of all the phases so far, and an invocation that gets through
returns those of all three together. -/
theorem outputs_merge_by_phase (pipeline : Pipeline (StateM σ)) (task : Task) :
    (pipeline.execute task = pipeline.halfway task >>= fun midway =>
      ExceptT.lift (pipeline.converseAfter task midway) >>= pipeline.conclude task midway) ∧
    (∀ world midway middle dialogue result session later,
      conduct (pipeline.halfway task) world = (.ok midway, middle) →
      (pipeline.converseAfter task midway).run middle = ((dialogue, result, session), later) →
      ∀ said call answer rest name, dialogue = said ++ ⟨call, answer⟩ :: rest →
        call.target = Outputs.capability.target → call.method = "get" → call.text 0 = .ok name →
        answer = .ok (outputByPhase name midway.before midway.handled.outputs said)) ∧
    ∀ world outcome last, conduct (pipeline.execute task) world = (.ok outcome, last) →
      ∃ midway dialogue, pipeline.Passed task world outcome midway dialogue := by
  refine ⟨pipeline.execute_eq_halfway task, ?_, fun _ _ _ => exists_passed⟩
  intro world midway middle dialogue result session later reached spoken said call answer rest name
  exact looked_after reached spoken

/-- A task with a script for either phase. -/
def painted : Task where
  inputs :=
    { entries := [("prescript", ⟨.string "before", none⟩), ("postscript", ⟨.string "after", none⟩)]
      distinct := by decide }

/-- Something is painted red before the handler paints it blue; afterwards it is looked at. -/
def painting : Pipeline (StateM (List Values)) :=
  { rehearsal SortedMap.empty
      [⟨"outputs", "set", [some (.string "colour"), some (.string "red")]⟩,
        ⟨"outputs", "setJson", [some (.string "coat"), some (.bool true)]⟩, ⟨"outputs", "set", []⟩]
      [⟨"outputs", "get", [some (.string "colour")]⟩,
        ⟨"outputs", "set", [some (.string "coat"), some (.string "thin")]⟩] with
    handler :=
      { handle := fun _ => pure (.ok { outputs := SortedMap.ofList [("colour", .string "blue")] })
        undo := fun _ _ => pure () } }

/-- Scripts after the handler begin by looking for an output. -/
def looksFirst (pipeline : Pipeline (StateM (List Values))) (task : Task) (name : String) : Bool :=
  match conduct (pipeline.halfway task) [] with
  | (.error _, _) => false
  | (.ok midway, middle) =>
    match ((pipeline.converseAfter task midway).run middle).1.1 with
    | [] => false
    | ⟨call, _⟩ :: _ =>
      call.target == Outputs.capability.target && call.method == "get" && (call.text 0).toOption == some name

theorem blue_paint_is_seen :
    (∃ outcome last, conduct (painting.execute painted) [] = (.ok outcome, last) ∧
      ∃ midway dialogue, painting.Passed painted [] outcome midway dialogue) ∧
    ∃ midway middle call answer rest result session later,
      conduct (painting.halfway painted) [] = (.ok midway, middle) ∧
      (painting.converseAfter painted midway).run middle = ((⟨call, answer⟩ :: rest, result, session), later) ∧
      answer = .ok (outputByPhase "colour" midway.before midway.handled.outputs []) := by
  constructor
  · have succeeds : (conduct (painting.execute painted) []).1.isOk = true := by decide +kernel
    rcases executed : conduct (painting.execute painted) [] with ⟨error | outcome, last⟩
    · rw [executed] at succeeds
      cases succeeds
    · exact ⟨outcome, last, rfl, (painting.outputs_merge_by_phase painted).2.2 [] outcome last executed⟩
  · have looks : looksFirst painting painted "colour" = true := by decide +kernel
    unfold looksFirst at looks
    split at looks
    next => cases looks
    next midway middle reached =>
      rcases spoken : (painting.converseAfter painted midway).run middle with ⟨⟨dialogue, result, session⟩, later⟩
      rw [spoken] at looks
      cases dialogue with
      | nil => cases looks
      | cons exchange rest =>
        obtain ⟨call, answer⟩ := exchange
        simp only [Bool.and_eq_true, beq_iff_eq] at looks
        obtain ⟨⟨addressed, gets⟩, named⟩ := looks
        have text : call.text 0 = .ok "colour" := by
          cases found : call.text 0 <;> rw [found] at named <;> cases named
          rfl
        exact ⟨midway, middle, call, answer, rest, result, session, later, reached, spoken,
          (painting.outputs_merge_by_phase painted).2.1 [] midway middle _ result session later reached spoken [] call
            answer rest "colour" rfl addressed gets text⟩

end Pipeline
end ScriptedTask
