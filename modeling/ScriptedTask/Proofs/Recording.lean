import ScriptedTask.Proofs.Passage

/-! Invocations with a log. The collaborators of a recorded pipeline act as before and note that
they were called; nothing else changes, so the log tells what the plain pipeline does. -/

namespace ScriptedTask

/-- What can be noticed of an invocation from outside. -/
inductive Event where
  | entered (stage : Stage)
  | loaded (instanceId : String)
  | handled (task : Task)
  | stored (instanceId : String) (changes : Values)

def Phase.stage : Phase → Stage
  | .pre => .runPreScripts
  | .post => .runPostScripts

variable {σ α β : Type}

/-- The same act, which notes events in a log. -/
def noting (events : List Event) (act : StateM σ α) : StateM (σ × List Event) α := fun (world, log) =>
  let (value, later) := act.run world
  (value, (later, log ++ events))

abbrev quietly (act : StateM σ α) : StateM (σ × List Event) α := noting [] act

theorem quietly_pure (value : α) : quietly (pure value : StateM σ α) = pure value := by
  funext ⟨world, log⟩
  simp only [quietly, noting, List.append_nil]
  rfl

theorem noting_bind (events others : List Event) (first : StateM σ α) (next : α → StateM σ β) :
    noting (events ++ others) (first >>= next) = noting events first >>= fun value => noting others (next value) := by
  funext ⟨world, log⟩
  simp only [noting, ← List.append_assoc]
  rfl

theorem quietly_bind (first : StateM σ α) (next : α → StateM σ β) :
    quietly (first >>= next) = quietly first >>= fun value => quietly (next value) :=
  noting_bind [] [] first next

namespace Pipeline

def recorded (pipeline : Pipeline (StateM σ)) : Pipeline (StateM (σ × List Event)) where
  handler :=
    { handle := fun task => noting [.handled task] (pipeline.handler.handle task)
      undo := fun modules reason => quietly (pipeline.handler.undo modules reason) }
  repository :=
    { load := fun instanceId => noting [.loaded instanceId] (pipeline.repository.load instanceId)
      store := fun instanceId changes =>
        noting [.stored instanceId changes] (pipeline.repository.store instanceId changes) }
  interpreter := pipeline.interpreter
  settings := pipeline.settings
  queries := pipeline.queries
  tokens := pipeline.tokens.map fun fetch instanceId => quietly (fetch instanceId)
  observe task stage := noting [.entered stage] (pipeline.observe task stage)

end Pipeline

section Scripts

variable (provider : Option (TokenSource (StateM σ)))

/-- The provider whose fetches are not noted. -/
private abbrev silent (provider : Option (TokenSource (StateM σ))) : Option (TokenSource (StateM (σ × List Event))) :=
  provider.map fun fetch instanceId => quietly (fetch instanceId)

private theorem get_quietly (token : TokenCache) : token.get (silent provider) = quietly (token.get provider) := by
  unfold TokenCache.get
  cases token.cached with
  | some text => exact (quietly_pure _).symm
  | none =>
    cases provider with
    | none => exact (quietly_pure _).symm
    | some fetch =>
      simp only [Option.map_some, quietly_bind]
      congr 1
      funext fetched
      cases fetched <;> exact (quietly_pure _).symm

private theorem perform_quietly (run : QueryRun) (token : TokenCache) :
    run.perform (silent provider) token = quietly (run.perform provider token) := by
  induction run generalizing token with
  | answer result => exact (quietly_pure _).symm
  | needToken resume ih => simp only [QueryRun.perform, get_quietly, quietly_bind, ih]

private theorem query_quietly (query : Query) (call : Call) (token : TokenCache) :
    query.invoke (silent provider) call token = quietly (query.invoke provider call token) := by
  simp only [Query.invoke, perform_quietly, quietly_bind]
  congr 1
  funext ⟨result, kept⟩
  cases result <;> exact (quietly_pure _).symm

private theorem invoke_quietly (session : Session) (call : Call) :
    session.invoke (silent provider) call = quietly (session.invoke provider call) := by
  unfold Session.invoke
  cases session.invokeCapability? call with
  | some answered => exact (quietly_pure _).symm
  | none =>
    cases session.queries.find? (·.target = call.target) with
    | none => exact (quietly_pure _).symm
    | some query => simp only [query_quietly, quietly_bind, quietly_pure]

private theorem behaviour_quietly (settings : RunSettings) (behaviour : Script.Behaviour)
    (lastFailure : Option CallError) (session : Session) :
    behaviour.converse settings (silent provider) lastFailure session =
      quietly (behaviour.converse settings provider lastFailure session) := by
  induction behaviour generalizing lastFailure session with
  | ended ending => exact (quietly_pure _).symm
  | call request resume ih =>
    simp only [Script.Behaviour.converse, invoke_quietly, quietly_bind, quietly_pure, ih]

theorem converse_quietly (interpreter : Script.Interpreter) (settings : RunSettings) (source : String)
    (session : Session) :
    Script.converse interpreter settings (silent provider) source session =
      quietly (Script.converse interpreter settings provider source session) := by
  unfold Script.converse
  cases Script.checkTargets [] (session.queries.map Query.target) with
  | error error => exact (quietly_pure _).symm
  | ok _ =>
    by_cases blank : Text.isBlankText source = true
    · simp [blank, quietly_pure]
    · cases interpreter settings session.globals source <;> simp [blank, quietly_pure, behaviour_quietly]

end Scripts

/-- The plain program ends in the result, and so does the recorded one, which notes the events. -/
def Leads (recorded : ExceptT PipelineError (StateM (σ × List Event)) α)
    (plain : ExceptT PipelineError (StateM σ) α) (world : σ) (result : Except PipelineError α) (later : σ)
    (events : List Event) : Prop :=
  conduct plain world = (result, later) ∧
    ∀ log, conduct recorded (world, log) = (result, (later, log ++ events))

section Programs

variable {recorded : ExceptT PipelineError (StateM (σ × List Event)) α}
  {plain : ExceptT PipelineError (StateM σ) α}
  {afterwards : α → ExceptT PipelineError (StateM (σ × List Event)) β}
  {next : α → ExceptT PipelineError (StateM σ) β}
  {world middle later : σ} {events others : List Event}

theorem Leads.bind {value : α} {result : Except PipelineError β}
    (first : Leads recorded plain world (.ok value) middle events)
    (rest : Leads (afterwards value) (next value) middle result later others) :
    Leads (recorded >>= afterwards) (plain >>= next) world result later (events ++ others) := by
  constructor
  · rw [conduct_bind_ok next first.1, rest.1]
  · intro log
    rw [conduct_bind_ok afterwards (first.2 log), rest.2, List.append_assoc]

theorem Leads.stop {error : PipelineError} (first : Leads recorded plain world (.error error) middle events) :
    Leads (recorded >>= afterwards) (plain >>= next) world (.error error) middle events := by
  constructor
  · rw [conduct_bind_error next first.1]
  · intro log
    rw [conduct_bind_error afterwards (first.2 log)]

theorem leads_pure (value : α) (world : σ) : Leads (pure value) (pure value) world (.ok value) world [] := by
  refine ⟨rfl, ?_⟩
  intro log
  rw [List.append_nil]
  rfl

/-- The programs lead to some result, which fits what is noted. -/
def Comes (recorded : ExceptT PipelineError (StateM (σ × List Event)) α)
    (plain : ExceptT PipelineError (StateM σ) α) (world : σ) (fits : Except PipelineError α → List Event → Prop) : Prop :=
  ∃ result later events, Leads recorded plain world result later events ∧ fits result events

variable {fits : Except PipelineError β → List Event → Prop}

theorem Leads.comes {value : α} (first : Leads recorded plain world (.ok value) middle events)
    (rest : Comes (afterwards value) (next value) middle fun result others => fits result (events ++ others)) :
    Comes (recorded >>= afterwards) (plain >>= next) world fits := by
  obtain ⟨result, later, others, leads, fit⟩ := rest
  exact ⟨result, later, events ++ others, first.bind leads, fit⟩

theorem Leads.comes_stop {error : PipelineError} (first : Leads recorded plain world (.error error) middle events)
    (fit : fits (.error error) events) : Comes (recorded >>= afterwards) (plain >>= next) world fits :=
  ⟨.error error, middle, events, first.stop, fit⟩

/-- Of a part it need only be known whom an error blames. -/
theorem Comes.bind {blames : PipelineError → Prop}
    (first : ∃ result later, Leads recorded plain world result later events ∧
      ∀ error, result = .error error → blames error)
    (stop : ∀ error, blames error → fits (.error error) events)
    (rest : ∀ value middle, conduct plain world = (.ok value, middle) →
      Comes (afterwards value) (next value) middle fun result others => fits result (events ++ others)) :
    Comes (recorded >>= afterwards) (plain >>= next) world fits := by
  obtain ⟨result, middle, leads, blamed⟩ := first
  cases result with
  | error error => exact leads.comes_stop (stop error (blamed error rfl))
  | ok value => exact leads.comes (rest value middle leads.1)

theorem leads_consult (blame : Failure → PipelineError) {act : StateM σ (Except Failure α)}
    {answer : Except Failure α} (events : List Event) (acted : act.run world = (answer, later)) :
    Leads (Pipeline.consult blame (noting events act)) (Pipeline.consult blame act) world
      (answer.mapError blame) later events := by
  refine ⟨conduct_consult blame acted, ?_⟩
  intro log
  apply conduct_consult
  simp only [StateT.run, noting] at acted ⊢
  rw [acted]

theorem leads_quietly {act : ExceptT PipelineError (StateM σ) α} {result : Except PipelineError α}
    (acted : conduct act world = (result, later)) :
    Leads (ExceptT.mk (quietly act.run)) act world result later [] := by
  refine ⟨acted, ?_⟩
  intro log
  simp only [conduct, ExceptT.run_mk, StateT.run, noting] at acted ⊢
  rw [acted]

end Programs

namespace Pipeline

variable {pipeline : Pipeline (StateM σ)} {task : Task} {world middle later : σ} {events : List Event}

theorem comes_enter {stage : Stage} {fits : Except PipelineError α → List Event → Prop}
    {afterwards : Unit → Step (StateM (σ × List Event)) α} {next : Unit → Step (StateM σ) α}
    (rest : Comes (afterwards ()) (next ()) (pipeline.entering task stage world)
      fun result events => fits result (.entered stage :: events)) :
    Comes (pipeline.recorded.enter task stage >>= afterwards) (pipeline.enter task stage >>= next) world fits := by
  have entered : Leads (pipeline.recorded.enter task stage) (pipeline.enter task stage) world (.ok ())
      (pipeline.entering task stage world) [.entered stage] :=
    ⟨rfl, fun _ => rfl⟩
  exact entered.comes rest

/-- A collaborator acts once and is noted; if it fails, the stage is to blame. -/
theorem leads_load (pipeline : Pipeline (StateM σ)) (instanceId : String) (world : σ) : ∃ result later,
    Leads (pipeline.recorded.load instanceId) (pipeline.load instanceId) world result later [.loaded instanceId] ∧
      ∀ error, result = .error error → error.stage = .fetchContext := by
  rcases acted : (pipeline.repository.load instanceId).run world with ⟨answer, later⟩
  refine ⟨_, later, leads_consult _ _ acted, ?_⟩
  cases answer <;> rintro error same <;> cases same
  rfl

theorem leads_handle (pipeline : Pipeline (StateM σ)) (task : Task) (world : σ) : ∃ result later,
    Leads (pipeline.recorded.handle task) (pipeline.handle task) world result later [.handled task] ∧
      ∀ error, result = .error error → error.stage = .invokeHandler := by
  rcases acted : (pipeline.handler.handle task).run world with ⟨answer, later⟩
  refine ⟨_, later, leads_consult _ _ acted, ?_⟩
  cases answer <;> rintro error same <;> cases same
  rfl

theorem leads_persist (pipeline : Pipeline (StateM σ)) (instanceId : String) (changes : Values) (world : σ) :
    ∃ result later,
      Leads (pipeline.recorded.persist instanceId changes) (pipeline.persist instanceId changes) world result later
        (if changes.isEmpty then [] else [.stored instanceId changes]) ∧
      ∀ error, result = .error error → changes.isEmpty = false ∧ error.stage = .persistIfChanged := by
  unfold persist
  by_cases empty : changes.isEmpty = true
  · simp only [empty, if_true]
    exact ⟨_, world, leads_pure () world, by rintro error ⟨⟩⟩
  · simp only [empty, Bool.false_eq_true, if_false]
    rcases acted : (pipeline.repository.store instanceId changes).run world with ⟨answer, later⟩
    refine ⟨_, later, leads_consult _ _ acted, ?_⟩
    cases answer <;> rintro error same <;> cases same
    exact ⟨trivial, rfl⟩

theorem leads_substitute (task : Task) (current : Values) (world : σ) :
    Leads (substitute task current) (substitute task current) world
      (((task.inputs.substitute current).map task.withInputs).mapError .substitution) world [] := by
  refine ⟨conduct_substitute task current world, ?_⟩
  intro log
  rw [conduct_substitute, List.append_nil]

theorem tellPhase_recorded (phase : Phase) (inputs snapshot outputs : Values) (token : TokenCache) :
    pipeline.recorded.tellPhase phase inputs snapshot outputs token =
      ExceptT.mk (quietly (pipeline.tellPhase phase inputs snapshot outputs token).run) := by
  have said := converse_quietly pipeline.tokens pipeline.interpreter pipeline.settings
    (Fragment.assemble inputs phase) (pipeline.session inputs snapshot outputs token)
  simp only [tellPhase, ExceptT.run_mk, quietly_bind, ← said]
  congr 1
  refine bind_congr fun spoken => ?_
  rcases spoken with ⟨dialogue, source | _, session⟩ <;> exact (quietly_pure _).symm

theorem leads_tellPhase (pipeline : Pipeline (StateM σ)) (phase : Phase) (inputs snapshot outputs : Values)
    (token : TokenCache) (world : σ) : ∃ result later,
    Leads (pipeline.recorded.tellPhase phase inputs snapshot outputs token)
      (pipeline.tellPhase phase inputs snapshot outputs token) world result later [] ∧
      ∀ error, result = .error error → error.stage = phase.stage := by
  rcases told : conduct (pipeline.tellPhase phase inputs snapshot outputs token) world with ⟨result, later⟩
  rw [tellPhase_recorded]
  refine ⟨result, later, leads_quietly told, ?_⟩
  rintro error rfl
  obtain ⟨⟨said, ended, after⟩, middle, conversed, concluded⟩ := run_bind_eq told
  cases ended with
  | error source => cases concluded; cases phase <;> rfl
  | ok _ => cases concluded

end Pipeline
end ScriptedTask
