import ScriptedTask.Proofs.Passage

/-! Requests for the access token of an invocation. A watched run is the run itself with a log of two things:
what each request for the token was answered, and what each fetch of it came to. The log shows that fetching
goes on until a fetch succeeds and not further, over all queries and both script phases of one invocation. -/

namespace ScriptedTask

/-- A fetch of the token: for which instance, and what came of it. -/
structure Fetch where
  instanceId : String
  result : Except Failure String

structure TokenLog where
  /-- The answers to all requests, in order. -/
  answers : List (Except CallError String) := []
  fetches : List Fetch := []

def Fetch.succeeds (fetch : Fetch) : Bool := fetch.result.isOk

/-- The place of the first fetch that succeeds, or the number of fetches. -/
def firstSuccess (fetches : List Fetch) : Nat := fetches.findIdx Fetch.succeeds

/-- Requests fetch until a fetch succeeds. Those before are answered with the failures of their own fetches,
that one and all later ones with its token. -/
structure FetchedOnce (instanceId : String) (log : TokenLog) : Prop where
  own : ∀ fetch ∈ log.fetches, fetch.instanceId = instanceId
  count : log.fetches.length = min log.answers.length (firstSuccess log.fetches + 1)
  failed : ∀ place fetch, place < firstSuccess log.fetches → log.fetches[place]? = some fetch →
    ∃ failure, fetch.result = .error failure ∧ log.answers[place]? = some (.error (.token failure.text))
  kept : ∀ fetch text, log.fetches[firstSuccess log.fetches]? = some fetch → fetch.result = .ok text →
    ∀ place, firstSuccess log.fetches ≤ place → place < log.answers.length → log.answers[place]? = some (.ok text)

/-- Without a provider every request fails and nothing is fetched. -/
structure NeverFetched (log : TokenLog) : Prop where
  refused : ∀ answer ∈ log.answers, answer = .error (.token "no token provider configured")
  unfetched : log.fetches = []

variable {σ α β : Type}

section Watching

/-- The act, which leaves the log alone. -/
def besideLog (act : StateM σ α) : StateM (σ × TokenLog) α := fun (world, log) =>
  let (value, later) := act.run world
  (value, (later, log))

def watched (fetch : TokenSource (StateM σ)) : TokenSource (StateM (σ × TokenLog)) := fun instanceId (world, log) =>
  let (result, later) := (fetch instanceId).run world
  (result, (later, { log with fetches := log.fetches ++ [⟨instanceId, result⟩] }))

def noteAnswer (answer : Except CallError String) : StateM (σ × TokenLog) Unit :=
  modify fun (world, log) => (world, { log with answers := log.answers ++ [answer] })

variable (provider : Option (TokenSource (StateM σ)))

def TokenCache.getWatched (token : TokenCache) : StateM (σ × TokenLog) (Except CallError String × TokenCache) := do
  let (answer, token) ← token.get (provider.map watched)
  noteAnswer answer
  return (answer, token)

def QueryRun.performWatched : QueryRun → TokenCache → StateM (σ × TokenLog) (Except Failure Json × TokenCache)
  | .answer result, token => pure (result, token)
  | .needToken resume, token => do
    let (fetched, token) ← token.getWatched provider
    performWatched (resume fetched) token

def Query.invokeWatched (query : Query) (call : Call) (token : TokenCache) :
    StateM (σ × TokenLog) (Answer × TokenCache) := do
  let (result, token) ← (query.call call.method call.values).performWatched provider token
  match result with
  | .ok value => return (.ok (some value), token)
  | .error failure => return (.error (.external query.target call.method failure.text), token)

def Session.invokeWatched (session : Session) (call : Call) : StateM (σ × TokenLog) (Answer × Session) :=
  match session.invokeCapability? call with
  | some answered => pure answered
  | none =>
    match session.queries.find? (·.target = call.target) with
    | some query => do
      let (answer, token) ← query.invokeWatched provider call session.token
      return (answer, { session with token })
    | none => pure (.error (.unknownMethod call.target call.method), session)

namespace Script

def Behaviour.performWatched (settings : RunSettings) :
    Behaviour → Option CallError → Session → StateM (σ × TokenLog) (Except ScriptError Unit × Session)
  | .ended ending, lastFailure, session => pure (ending.error? settings lastFailure, session)
  | .call request resume, lastFailure, session => do
    let (answer, session) ← session.invokeWatched provider request
    performWatched settings (resume answer) (laterFailure answer lastFailure) session

def runWatched (interpreter : Interpreter) (settings : RunSettings) (source : String) (session : Session) :
    StateM (σ × TokenLog) (Except ScriptError Unit × Session) :=
  match checkTargets [] (session.queries.map Query.target) with
  | .error error => pure (.error error, session)
  | .ok () =>
    if Text.isBlankText source then pure (.ok (), session)
    else
      match interpreter settings session.globals source with
      | .refused message => pure (.error (.engine message), session)
      | .unreadable message => pure (.error (.compile message), session)
      | .runs behaviour => behaviour.performWatched provider settings none session

end Script

end Watching

/-- Requests the token the given number of times. -/
def TokenCache.getTimes {m : Type → Type} [Monad m] (provider : Option (TokenSource m)) :
    Nat → TokenCache → m (List (Except CallError String) × TokenCache)
  | 0, token => pure ([], token)
  | times + 1, token => do
    let (answer, token) ← token.get provider
    let (answers, token) ← getTimes provider times token
    return (answer :: answers, token)

namespace Pipeline

/-- The pipeline with collaborators that know nothing of the log. -/
def besideLog (pipeline : Pipeline (StateM σ)) : Pipeline (StateM (σ × TokenLog)) where
  handler :=
    { handle := fun task => ScriptedTask.besideLog (pipeline.handler.handle task)
      undo := fun modules reason => ScriptedTask.besideLog (pipeline.handler.undo modules reason) }
  repository :=
    { load := fun instanceId => ScriptedTask.besideLog (pipeline.repository.load instanceId)
      store := fun instanceId changes => ScriptedTask.besideLog (pipeline.repository.store instanceId changes) }
  interpreter := pipeline.interpreter
  settings := pipeline.settings
  queries := pipeline.queries
  tokens := pipeline.tokens.map watched
  observe task stage := ScriptedTask.besideLog (pipeline.observe task stage)

def runPhaseWatched (pipeline : Pipeline (StateM σ)) (phase : Phase) (inputs snapshot outputs : Values)
    (token : TokenCache) : Step (StateM (σ × TokenLog)) (PhaseResult × TokenCache) :=
  ExceptT.mk do
    let (result, session) ← Script.runWatched pipeline.tokens pipeline.interpreter pipeline.settings
      (Fragment.assemble inputs phase) (pipeline.session inputs snapshot outputs token)
    match result with
    | .ok () => return .ok (session.outcome, session.token)
    | .error source => return .error (.script phase source)

def executeWatched (pipeline : Pipeline (StateM σ)) (task : Task) : Step (StateM (σ × TokenLog)) Outcome := do
  let beside := pipeline.besideLog
  let inputs := task.inputs.values
  beside.enter task .fetchContext
  let snapshot ← beside.load task.instanceId
  beside.enter task .runPreScripts
  let (before, token) ←
    pipeline.runPhaseWatched .pre inputs snapshot SortedMap.empty { instanceId := task.instanceId }
  beside.enter task .mergeVariables
  let current := snapshot.overlay before.updates
  beside.enter task .substituteReferences
  let substituted ← substitute task current
  beside.enter task .invokeHandler
  let handled ← beside.handle substituted
  beside.enter task .mergeOutputs
  let outputs := before.outputs.overlay handled.outputs
  beside.enter task .runPostScripts
  let (after, _) ← pipeline.runPhaseWatched .post inputs current outputs token
  beside.enter task .mergeFinal
  let changes := before.updates.overlay after.updates
  beside.enter task .persistIfChanged
  beside.persist task.instanceId changes
  beside.enter task .done
  return { modules := handled.modules, outputs := after.outputs }

end Pipeline

/-- What is in the log when a token has come to this state. -/
inductive TokenLog.Fits (instanceId : String) : (provided : Bool) → TokenCache → TokenLog → Prop where
  | unprovided (times : Nat) :
      Fits instanceId false { instanceId } ⟨List.replicate times (.error (.token "no token provider configured")), []⟩
  | failing (failures : List Failure) :
      Fits instanceId true { instanceId } ⟨failures.map fun failure => .error (.token failure.text),
        failures.map fun failure => ⟨instanceId, .error failure⟩⟩
  | kept (failures : List Failure) (text : String) (more : Nat) :
      Fits instanceId true { instanceId, cached := some text }
        ⟨(failures.map fun failure => .error (.token failure.text)) ++ List.replicate (more + 1) (.ok text),
          (failures.map fun failure => ⟨instanceId, .error failure⟩) ++ [⟨instanceId, .ok text⟩]⟩

section Logs

variable {instanceId : String} {provided : Bool} {token : TokenCache} {log : TokenLog}

theorem TokenLog.fits_start (instanceId : String) (provided : Bool) : Fits instanceId provided { instanceId } {} := by
  cases provided with
  | false => exact .unprovided 0
  | true => exact .failing []

/-- Fetches that failed come before the first that succeeds. -/
theorem firstSuccess_failing (instanceId : String) (failures : List Failure) (others : List Fetch) :
    firstSuccess ((failures.map fun failure => ⟨instanceId, .error failure⟩) ++ others) =
      failures.length + firstSuccess others := by
  induction failures with
  | nil => rw [List.map_nil, List.nil_append, List.length_nil, Nat.zero_add]
  | cons failure rest ih =>
    rw [List.map_cons, List.cons_append, List.length_cons, firstSuccess, List.findIdx_cons, Nat.add_right_comm, ← ih]
    rfl

namespace TokenLog.Fits

theorem fetchedOnce (fits : Fits instanceId true token log) : FetchedOnce instanceId log := by
  cases fits with
  | failing failures =>
    have first : firstSuccess (failures.map fun failure => ⟨instanceId, .error failure⟩) = failures.length := by
      have none := firstSuccess_failing instanceId failures []
      rwa [List.append_nil] at none
    constructor
    · intro fetch member
      obtain ⟨failure, _, rfl⟩ := List.mem_map.mp member
      rfl
    · simp [first]
    · intro place fetch _ found
      obtain ⟨failure, held, rfl⟩ := by simpa using found
      exact ⟨failure, rfl, by simp [held]⟩
    · intro fetch text found
      simp [first] at found
  | kept failures text more =>
    have first : firstSuccess ((failures.map fun failure => ⟨instanceId, .error failure⟩) ++
        [⟨instanceId, .ok text⟩]) = failures.length := firstSuccess_failing instanceId failures _
    constructor
    · intro fetch member
      rcases List.mem_append.mp member with failed | last
      · obtain ⟨failure, _, rfl⟩ := List.mem_map.mp failed
        rfl
      · rw [List.mem_singleton.mp last]
    · simp [first]
    · intro place fetch early found
      rw [first] at early
      rw [List.getElem?_append_left (by rwa [List.length_map])] at found ⊢
      obtain ⟨failure, held, rfl⟩ := by simpa using found
      exact ⟨failure, rfl, by simp [held]⟩
    · intro fetch other found same place late inside
      rw [first, List.getElem?_append_right (by simp), List.length_map, Nat.sub_self, List.getElem?_cons_zero] at found
      cases found
      cases same
      replace late := first ▸ late
      rw [List.length_append, List.length_map, List.length_replicate] at inside
      rw [List.getElem?_append_right (by rwa [List.length_map]), List.length_map, List.getElem?_replicate,
        if_pos (by omega)]

theorem neverFetched (fits : Fits instanceId false token log) : NeverFetched log := by
  cases fits with
  | unprovided times => exact ⟨fun answer member => List.eq_of_mem_replicate member, rfl⟩

end TokenLog.Fits

/-- What the log of an invocation shows, with and without a provider. -/
def TokenLog.Shows (instanceId : String) (provided : Bool) (log : TokenLog) : Prop :=
  if provided then FetchedOnce instanceId log else NeverFetched log

theorem TokenLog.Fits.shows (fits : Fits instanceId provided token log) : log.Shows instanceId provided := by
  cases provided with
  | false => exact fits.neverFetched
  | true => exact fits.fetchedOnce

end Logs

/-- One request. Only the provider adds to the fetches, and it does so only while nothing is kept. -/
theorem TokenCache.get_watched {provider : Option (TokenSource (StateM σ))} {instanceId : String} {token : TokenCache}
    {answers : List (Except CallError String)} {fetches : List Fetch} (noted : List (Except CallError String))
    (fits : TokenLog.Fits instanceId provider.isSome token ⟨answers, fetches⟩) (world : σ) :
    ∃ answer after later more,
      (token.get (provider.map watched)).run (world, ⟨noted, fetches⟩) = ((answer, after), (later, ⟨noted, more⟩)) ∧
        (token.get provider).run world = ((answer, after), later) ∧
        TokenLog.Fits instanceId provider.isSome after ⟨answers ++ [answer], more⟩ := by
  cases provider with
  | none =>
    cases fits with
    | unprovided times =>
      refine ⟨_, _, world, [], rfl, rfl, ?_⟩
      rw [← List.replicate_succ']
      exact .unprovided (times + 1)
  | some fetch =>
    cases fits with
    | failing failures =>
      rcases fetched : (fetch instanceId).run world with ⟨result, later⟩
      have watching : (watched fetch instanceId).run
          (world, ⟨noted, failures.map fun failure => ⟨instanceId, .error failure⟩⟩) =
          (result, (later, ⟨noted, (failures.map fun failure => ⟨instanceId, .error failure⟩) ++ [⟨instanceId, result⟩]⟩)) := by
        simp only [StateT.run, watched] at fetched ⊢
        rw [fetched]
      cases result with
      | error failure =>
        refine ⟨_, _, later, _, run_bind_of _ watching, run_bind_of _ fetched, ?_⟩
        have more : TokenLog.Fits instanceId true _ _ := .failing (failures ++ [failure])
        simpa using more
      | ok text =>
        refine ⟨_, _, later, _, run_bind_of _ watching, run_bind_of _ fetched, ?_⟩
        exact .kept failures text 0
    | kept failures text more =>
      refine ⟨_, _, world, _, rfl, rfl, ?_⟩
      have longer : TokenLog.Fits instanceId true _ _ := .kept failures text (more + 1)
      rwa [List.replicate_succ', ← List.append_assoc] at longer

/-- Requests in a row. -/
theorem TokenCache.getTimes_watched {provider : Option (TokenSource (StateM σ))} {instanceId : String}
    (times : Nat) {token : TokenCache} {before : List (Except CallError String)} {fetches : List Fetch}
    (noted : List (Except CallError String)) (fits : TokenLog.Fits instanceId provider.isSome token ⟨before, fetches⟩) (world : σ) :
    ∃ answers after later more,
      (token.getTimes (provider.map watched) times).run (world, ⟨noted, fetches⟩) =
          ((answers, after), (later, ⟨noted, more⟩)) ∧
        (token.getTimes provider times).run world = ((answers, after), later) ∧ answers.length = times ∧
        TokenLog.Fits instanceId provider.isSome after ⟨before ++ answers, more⟩ := by
  induction times generalizing token before fetches world with
  | zero =>
    rw [← List.append_nil before] at fits
    exact ⟨[], token, world, fetches, rfl, rfl, rfl, fits⟩
  | succ times ih =>
    obtain ⟨answer, next, middle, known, watching, got, fits⟩ := TokenCache.get_watched noted fits world
    obtain ⟨answers, after, later, more, others, gots, counted, fits⟩ := ih fits middle
    refine ⟨answer :: answers, after, later, more, ?_, ?_, by rw [List.length_cons, counted], ?_⟩
    · rw [getTimes, run_bind_of _ watching]
      exact run_bind_of _ others
    · rw [getTimes, run_bind_of _ got]
      exact run_bind_of _ gots
    · rwa [List.append_assoc] at fits

/-- From a log that fits, the watched program comes to what the plain one comes to, and leaves a log that fits
what it came to. -/
def Watches (before : TokenLog → Prop) (watching : StateM (σ × TokenLog) α) (plain : StateM σ α)
    (after : α → TokenLog → Prop) : Prop :=
  ∀ world log, before log → ∃ value later others,
    watching.run (world, log) = (value, (later, others)) ∧ plain.run world = (value, later) ∧ after value others

namespace Watches

variable {before : TokenLog → Prop} {watching : StateM (σ × TokenLog) α} {plain : StateM σ α}
  {between : α → TokenLog → Prop} {following : α → StateM (σ × TokenLog) β} {next : α → StateM σ β}
  {after : β → TokenLog → Prop}

theorem pure {value : β} (fits : ∀ log, before log → after value log) :
    Watches before (pure value : StateM (σ × TokenLog) β) (pure value : StateM σ β) after :=
  fun world log fit => ⟨value, world, log, rfl, rfl, fits log fit⟩

theorem bind (first : Watches before watching plain between)
    (rest : ∀ value, Watches (between value) (following value) (next value) after) :
    Watches before (watching >>= following) (plain >>= next) after := by
  intro world log fits
  obtain ⟨value, middle, known, watched, ran, fits⟩ := first world log fits
  obtain ⟨result, later, others, followed, ended, fits⟩ := rest value middle known fits
  refine ⟨result, later, others, ?_, ?_, fits⟩
  · rw [run_bind_of _ watched, followed]
  · rw [run_bind_of _ ran, ended]

theorem besideLog (act : StateM σ α) (before : TokenLog → Prop) :
    Watches before (besideLog act) act fun _ => before := by
  intro world log fits
  rcases acted : act.run world with ⟨value, later⟩
  refine ⟨value, later, log, ?_, rfl, fits⟩
  simp only [StateT.run, ScriptedTask.besideLog] at acted ⊢
  rw [acted]

end Watches

section Scripts

variable (provider : Option (TokenSource (StateM σ))) (instanceId : String)

/-- A log that fits the token. -/
abbrev FitsToken (token : TokenCache) : TokenLog → Prop := TokenLog.Fits instanceId provider.isSome token

theorem watches_get (token : TokenCache) :
    Watches (FitsToken provider instanceId token) (token.getWatched provider) (token.get provider)
      fun result => FitsToken provider instanceId result.2 := by
  intro world log fits
  obtain ⟨answer, after, later, more, watching, got, fits⟩ := TokenCache.get_watched log.answers fits world
  refine ⟨(answer, after), later, ⟨log.answers ++ [answer], more⟩, ?_, got, fits⟩
  rw [TokenCache.getWatched, run_bind_of _ watching]
  rfl

theorem watches_perform (run : QueryRun) (token : TokenCache) :
    Watches (FitsToken provider instanceId token) (run.performWatched provider token) (run.perform provider token)
      fun result => FitsToken provider instanceId result.2 := by
  induction run generalizing token with
  | answer result => exact .pure fun _ fits => fits
  | needToken resume ih => exact (watches_get provider instanceId token).bind fun result => ih result.1 result.2

theorem watches_query (query : Query) (call : Call) (token : TokenCache) :
    Watches (FitsToken provider instanceId token) (query.invokeWatched provider call token)
      (query.invoke provider call token) fun result => FitsToken provider instanceId result.2 := by
  refine (watches_perform provider instanceId _ token).bind ?_
  rintro ⟨failure | value, token⟩
  · exact .pure fun _ fits => fits
  · exact .pure fun _ fits => fits

/-- No capability has a part in the token. -/
theorem Session.token_invokeCapability? {session after : Session} {call : Call} {answer : Answer}
    (answered : session.invokeCapability? call = some (answer, after)) : after.token = session.token := by
  unfold invokeCapability? at answered
  split at answered
  · cases answered
    rfl
  · split at answered
    · cases answered
      rfl
    · split at answered <;> cases answered
      rfl

theorem watches_invoke (session : Session) (call : Call) :
    Watches (FitsToken provider instanceId session.token) (session.invokeWatched provider call)
      (session.invoke provider call) fun result => FitsToken provider instanceId result.2.token := by
  unfold Session.invokeWatched Session.invoke
  cases answered : session.invokeCapability? call with
  | some result =>
    have kept := Session.token_invokeCapability? answered
    exact .pure fun _ fits => kept ▸ fits
  | none =>
    cases session.queries.find? (·.target = call.target) with
    | none => exact .pure fun _ fits => fits
    | some query =>
      exact (watches_query provider instanceId query call session.token).bind fun result => .pure fun _ fits => fits

theorem watches_behaviour (settings : RunSettings) (behaviour : Script.Behaviour) (lastFailure : Option CallError)
    (session : Session) :
    Watches (FitsToken provider instanceId session.token) (behaviour.performWatched provider settings lastFailure session)
      (behaviour.perform settings provider lastFailure session)
      fun result => FitsToken provider instanceId result.2.token := by
  induction behaviour generalizing lastFailure session with
  | ended ending => exact .pure fun _ fits => fits
  | call request resume ih => exact (watches_invoke provider instanceId session request).bind fun result => ih _ _ result.2

theorem watches_source (interpreter : Script.Interpreter) (settings : RunSettings) (source : String) (session : Session) :
    Watches (FitsToken provider instanceId session.token) (Script.runWatched provider interpreter settings source session)
      (Script.runSource interpreter settings provider source session)
      fun result => FitsToken provider instanceId result.2.token := by
  unfold Script.runWatched Script.runSource
  cases Script.checkTargets [] (session.queries.map Query.target) with
  | error error => exact .pure fun _ fits => fits
  | ok _ =>
    by_cases blank : Text.isBlankText source = true
    · simp only [blank, if_true]
      exact .pure fun _ fits => fits
    · simp only [blank]
      cases interpreter settings session.globals source with
      | refused message => exact .pure fun _ fits => fits
      | unreadable message => exact .pure fun _ fits => fits
      | runs behaviour => exact watches_behaviour provider instanceId settings behaviour none session

end Scripts

namespace Pipeline

/-- The log of an invocation with one stage more. When the stage fails, the log shows all that is to be shown. -/
def WatchesStage (instanceId : String) (provided : Bool) (before : TokenLog → Prop)
    (watching : Step (StateM (σ × TokenLog)) α) (plain : Step (StateM σ) α) (after : α → TokenLog → Prop) : Prop :=
  Watches before watching.run plain.run fun
    | .ok value => after value
    | .error _ => TokenLog.Shows instanceId provided

namespace WatchesStage

variable {instanceId : String} {provided : Bool} {before : TokenLog → Prop} {token : TokenCache}
  {watching : Step (StateM (σ × TokenLog)) α} {plain : Step (StateM σ) α} {between : α → TokenLog → Prop}
  {following : α → Step (StateM (σ × TokenLog)) β} {next : α → Step (StateM σ) β} {after : β → TokenLog → Prop}

theorem bind (first : WatchesStage instanceId provided before watching plain between)
    (rest : ∀ value, WatchesStage instanceId provided (between value) (following value) (next value) after) :
    WatchesStage instanceId provided before (watching >>= following) (plain >>= next) after := by
  rw [WatchesStage, ExceptT.run_bind, ExceptT.run_bind]
  refine Watches.bind first ?_
  rintro (error | value)
  · exact .pure fun _ shown => shown
  · exact rest value

theorem enter (pipeline : Pipeline (StateM σ)) (task : Task) (stage : Stage) :
    WatchesStage instanceId provided before (pipeline.besideLog.enter task stage) (pipeline.enter task stage)
      fun _ => before :=
  (Watches.besideLog _ before).bind fun _ => .pure fun _ fits => fits

theorem consult (blame : Failure → PipelineError) (act : StateM σ (Except Failure α)) :
    WatchesStage instanceId provided (TokenLog.Fits instanceId provided token)
      (Pipeline.consult blame (ScriptedTask.besideLog act)) (Pipeline.consult blame act)
      fun _ => TokenLog.Fits instanceId provided token := by
  refine (Watches.besideLog act _).bind ?_
  rintro (failure | value)
  · exact .pure fun _ fits => fits.shows
  · exact .pure fun _ fits => fits

theorem substitute (task : Task) (current : Values) :
    WatchesStage instanceId provided (TokenLog.Fits instanceId provided token)
      (Pipeline.substitute task current : Step (StateM (σ × TokenLog)) Task)
      (Pipeline.substitute task current : Step (StateM σ) Task)
      fun _ => TokenLog.Fits instanceId provided token := by
  unfold Pipeline.substitute
  cases task.inputs.substitute current with
  | error source => exact Watches.pure fun _ fits => fits.shows
  | ok inputs => exact Watches.pure fun _ fits => fits

theorem persist (pipeline : Pipeline (StateM σ)) (instance' : String) (changes : Values) :
    WatchesStage instanceId provided (TokenLog.Fits instanceId provided token)
      (pipeline.besideLog.persist instance' changes) (pipeline.persist instance' changes)
      fun _ => TokenLog.Fits instanceId provided token := by
  unfold Pipeline.persist
  by_cases empty : changes.isEmpty = true
  · simp only [empty, if_true]
    exact Watches.pure fun _ fits => fits
  · simp only [empty]
    exact consult _ _

end WatchesStage

variable (pipeline : Pipeline (StateM σ))

theorem watches_phase (instanceId : String) (phase : Phase) (inputs snapshot outputs : Values) (token : TokenCache) :
    WatchesStage instanceId pipeline.tokens.isSome (TokenLog.Fits instanceId pipeline.tokens.isSome token)
      (pipeline.runPhaseWatched phase inputs snapshot outputs token) (pipeline.runPhase phase inputs snapshot outputs token)
      fun result => TokenLog.Fits instanceId pipeline.tokens.isSome result.2 := by
  rw [WatchesStage, runPhaseWatched, runPhase, ExceptT.run_mk, ExceptT.run_mk]
  refine Watches.bind (watches_source pipeline.tokens instanceId pipeline.interpreter pipeline.settings
    (Fragment.assemble inputs phase) (pipeline.session inputs snapshot outputs token)) ?_
  rintro ⟨source | _, session⟩
  · exact .pure fun _ fits => fits.shows
  · exact .pure fun _ fits => fits

/-- The token is handed on from the one phase to the other, so the log of both is the log of one token. -/
theorem watches_execute (task : Task) :
    WatchesStage task.instanceId pipeline.tokens.isSome
      (TokenLog.Fits task.instanceId pipeline.tokens.isSome { instanceId := task.instanceId })
      (pipeline.executeWatched task) (pipeline.execute task)
      fun _ => TokenLog.Shows task.instanceId pipeline.tokens.isSome := by
  simp only [executeWatched, execute, prepare, complete, bind_assoc, pure_bind]
  refine (WatchesStage.enter pipeline task _).bind fun _ => ?_
  refine (WatchesStage.consult _ _).bind fun snapshot => ?_
  refine (WatchesStage.enter pipeline task _).bind fun _ => ?_
  refine (pipeline.watches_phase task.instanceId .pre _ _ _ _).bind ?_
  rintro ⟨before, token⟩
  refine (WatchesStage.enter pipeline task _).bind fun _ => ?_
  refine (WatchesStage.enter pipeline task _).bind fun _ => ?_
  refine (WatchesStage.substitute task _).bind fun substituted => ?_
  refine (WatchesStage.enter pipeline task _).bind fun _ => ?_
  refine (WatchesStage.consult _ _).bind fun handled => ?_
  refine (WatchesStage.enter pipeline task _).bind fun _ => ?_
  refine (WatchesStage.enter pipeline task _).bind fun _ => ?_
  -- The second phase begins with the token as the first has left it.
  refine (pipeline.watches_phase task.instanceId .post _ _ _ token).bind ?_
  rintro ⟨after, last⟩
  refine (WatchesStage.enter pipeline task _).bind fun _ => ?_
  refine (WatchesStage.enter pipeline task _).bind fun _ => ?_
  refine (WatchesStage.persist pipeline task.instanceId _).bind fun _ => ?_
  refine (WatchesStage.enter pipeline task _).bind fun _ => ?_
  exact Watches.pure fun _ fits => fits.shows

end Pipeline

namespace TokenCache

/-- A token is fetched until that succeeds once. This holds of any number of requests in a row, and of all requests
that the queries of one invocation make in both phases together: every invocation begins without a token and
fetches for the instance of its own task. What a log says of a token does not depend on its text. -/
theorem fetches_until_success :
    (∀ {σ : Type} (provider : Option (TokenSource (StateM σ))) (instanceId : String) (times : Nat) (world : σ),
      ∃ answers token later fetches,
        (getTimes provider times { instanceId }).run world = ((answers, token), later) ∧
          (getTimes (provider.map watched) times { instanceId }).run (world, {}) =
            ((answers, token), (later, { fetches })) ∧
          answers.length = times ∧ TokenLog.Shows instanceId provider.isSome { answers, fetches }) ∧
    (∀ {σ : Type} (pipeline : Pipeline (StateM σ)) (task : Task) (world : σ), ∃ result later log,
      conduct (pipeline.execute task) world = (result, later) ∧
        conduct (pipeline.executeWatched task) (world, {}) = (result, (later, log)) ∧
        TokenLog.Shows task.instanceId pipeline.tokens.isSome log) ∧
    ∀ (provided : Bool) (instanceId first second : String),
      describe provided { instanceId, cached := some first } = describe provided { instanceId, cached := some second } := by
  refine ⟨?_, ?_, fun _ _ _ _ => rfl⟩
  · intro σ provider instanceId times world
    have begins := TokenLog.fits_start instanceId provider.isSome
    obtain ⟨answers, token, later, fetches, watching, got, counted, fits⟩ :=
      getTimes_watched times [] begins world
    exact ⟨answers, token, later, fetches, got, watching, counted, fits.shows⟩
  · intro σ pipeline task world
    have begins := TokenLog.fits_start task.instanceId pipeline.tokens.isSome
    obtain ⟨result, later, log, watching, ran, shown⟩ := pipeline.watches_execute task world {} begins
    refine ⟨result, later, log, ran, watching, ?_⟩
    cases result with
    | error error => exact shown
    | ok outcome => exact shown

end TokenCache
end ScriptedTask
