import ScriptedTask.Proofs.Causes
import ScriptedTask.Proofs.Independence

/-! The capabilities of a session are lent to a script: they are taken out of the session, empty ones stand in
for them while the script runs, and they are put back in whatever way it ends. So a run leaves in the session
what the calls of its script made of it, and runs in a row leave what all their calls did in a row. -/

namespace ScriptedTask

/-- The capabilities of a session while a script has them. -/
structure Loan where
  store : Variables
  inputs : VisibleInputs
  outputs : Outputs

def Loan.invoke? (loan : Loan) (call : Call) : Option (Answer × Loan) :=
  if call.target = Variables.capability.target then
    let (answer, store) := Variables.capability.invoke call loan.store
    some (answer, { loan with store })
  else if call.target = VisibleInputs.capability.target then
    let (answer, inputs) := VisibleInputs.capability.invoke call loan.inputs
    some (answer, { loan with inputs })
  else if call.target = Outputs.capability.target then
    let (answer, outputs) := Outputs.capability.invoke call loan.outputs
    some (answer, { loan with outputs })
  else none

namespace Session

def loan (session : Session) : Loan := ⟨session.store, session.inputs, session.outputs⟩

/-- The session while its capabilities are lent: empty ones stand in for them. -/
def lent (session : Session) : Session :=
  { session with
    store := { current := SortedMap.empty }, inputs := ⟨SortedMap.empty⟩, outputs := ⟨SortedMap.empty⟩ }

def takeBack (session : Session) (loan : Loan) : Session :=
  { session with store := loan.store, inputs := loan.inputs, outputs := loan.outputs }

theorem takeBack_lent (session : Session) : session.lent.takeBack session.loan = session := rfl

theorem invokeCapability?_takeBack (session : Session) (loan : Loan) (call : Call) :
    (session.takeBack loan).invokeCapability? call =
      (loan.invoke? call).map fun (answer, loan) => (answer, session.takeBack loan) := by
  unfold invokeCapability? Loan.invoke?
  split
  · rfl
  · split
    · rfl
    · split <;> rfl

theorem invokeCapability?_of_none {loan : Loan} {call : Call} (elsewhere : loan.invoke? call = none) (session : Session) :
    session.invokeCapability? call = none := by
  have missed := session.invokeCapability?_takeBack loan call
  rw [elsewhere, Option.map_none, invokeCapability?_eq, Option.map_eq_none_iff] at missed
  rw [invokeCapability?_eq, missed, Option.map_none]

section Lent

variable {m : Type → Type} [Monad m]

/-- Answers a call while the capabilities are lent. The session still has the queries. -/
def invokeLent (provider : Option (TokenSource m)) (session : Session) (loan : Loan) (call : Call) :
    m (Answer × Loan × Session) :=
  match loan.invoke? call with
  | some (answer, loan) => pure (answer, loan, session)
  | none => do
    let (answer, session) ← session.invoke provider call
    return (answer, loan, session)

theorem invoke_takeBack [LawfulMonad m] (provider : Option (TokenSource m)) (session : Session) (loan : Loan)
    (call : Call) :
    (session.takeBack loan).invoke provider call =
      (fun (answer, loan, session) => (answer, session.takeBack loan)) <$> session.invokeLent provider loan call := by
  unfold invokeLent
  cases answered : loan.invoke? call with
  | some taken => simp [invoke, invokeCapability?_takeBack, answered]
  | none =>
    simp only [invoke, invokeCapability?_of_none answered, takeBack]
    cases session.queries.find? (·.target = call.target) <;> simp

end Lent

end Session

namespace Script

section Lending

variable {m : Type → Type} [Monad m]

def Behaviour.performLent (settings : RunSettings) (provider : Option (TokenSource m)) :
    Behaviour → Option CallError → Session → Loan → m (Except ScriptError Unit × Loan × Session)
  | .ended ending, lastFailure, session, loan => pure (ending.error? settings lastFailure, loan, session)
  | .call request resume, lastFailure, session, loan => do
    let (answer, loan, session) ← session.invokeLent provider loan request
    performLent settings provider (resume answer) (laterFailure answer lastFailure) session loan

def Start.performLent (settings : RunSettings) (provider : Option (TokenSource m)) (session : Session) (loan : Loan) :
    Start → m (Except ScriptError Unit × Loan × Session)
  | .refused message => pure (.error (.engine message), loan, session)
  | .unreadable message => pure (.error (.compile message), loan, session)
  | .runs behaviour => behaviour.performLent settings provider none session loan

/-- Runs a source with the capabilities lent to it. Nothing is lent to a source that is not even read. -/
def runLending (interpreter : Interpreter) (settings : RunSettings) (provider : Option (TokenSource m))
    (source : String) (session : Session) : m (Except ScriptError Unit × Session) :=
  match checkTargets [] (session.queries.map Query.target) with
  | .error error => pure (.error error, session)
  | .ok () =>
    if Text.isBlankText source then pure (.ok (), session)
    else do
      let started := interpreter settings session.lent.globals source
      let (result, loan, rest) ← started.performLent settings provider session.lent session.loan
      return (result, rest.takeBack loan)

variable [LawfulMonad m]

theorem Behaviour.perform_takeBack (settings : RunSettings) (provider : Option (TokenSource m)) (behaviour : Behaviour)
    (lastFailure : Option CallError) (session : Session) (loan : Loan) :
    behaviour.perform settings provider lastFailure (session.takeBack loan) =
      (fun (result, loan, session) => (result, session.takeBack loan)) <$>
        behaviour.performLent settings provider lastFailure session loan := by
  induction behaviour generalizing lastFailure session loan with
  | ended ending => simp [perform, performLent]
  | call request resume ih => simp [perform, performLent, Session.invoke_takeBack, ih]

/-- Whoever runs a source need not know that anything is lent. -/
theorem runLending_eq (interpreter : Interpreter) (settings : RunSettings) (provider : Option (TokenSource m))
    (source : String) (session : Session) :
    runLending interpreter settings provider source session =
      runSource interpreter settings provider source session := by
  have same : session.lent.globals = session.globals := rfl
  unfold runLending runSource
  cases checkTargets [] (session.queries.map Query.target) with
  | error error => rfl
  | ok _ =>
    by_cases blank : Text.isBlankText source = true
    · simp only [blank, if_true]
    · simp only [blank, Bool.false_eq_true, if_false, same]
      cases interpreter settings session.globals source with
      | refused message => simp [Start.performLent, Session.takeBack_lent]
      | unreadable message => simp [Start.performLent, Session.takeBack_lent]
      | runs behaviour =>
        have performed := behaviour.perform_takeBack settings provider none session.lent session.loan
        rw [Session.takeBack_lent] at performed
        exact (map_eq_pure_bind _ _).symm.trans performed.symm

end Lending
end Script

/-! What a run leaves -/

section GivenBack

variable {σ : Type} {provider : Option (TokenSource (StateM σ))} {session after : Session} {dialogue : List Exchange}
  {world later : σ}

theorem Session.queries_invoke {call : Call} {answer : Answer}
    (invoked : (session.invoke provider call).run world = ((answer, after), later)) :
    after.queries = session.queries := by
  rw [invoke, invokeCapability?_eq] at invoked
  cases addressed : Addressee.ofTarget? call.target with
  | some addressee =>
    rw [addressed] at invoked
    cases addressee <;> cases invoked <;> rfl
  | none =>
    rw [addressed] at invoked
    simp only [Option.map_none] at invoked
    split at invoked <;> cases invoked <;> rfl

/-- The session comes back with its capabilities as the calls of a dialogue leave them, and as it was otherwise. -/
structure Session.GivenBack (session : Session) (dialogue : List Exchange) (after : Session) : Prop where
  store : Variables.capability.Says dialogue session.store after.store
  outputs : Outputs.capability.Says dialogue session.outputs after.outputs
  strict : after.store.strict = session.store.strict
  inputs : after.inputs = session.inputs
  queries : after.queries = session.queries

namespace Session.GivenBack

theorem refl (session : Session) : session.GivenBack [] session where
  store := Capability.says_nil.mpr rfl
  outputs := Capability.says_nil.mpr rfl
  strict := rfl
  inputs := rfl
  queries := rfl

theorem trans {middle : Session} {others : List Exchange} (first : session.GivenBack dialogue middle)
    (second : middle.GivenBack others after) : session.GivenBack (dialogue ++ others) after where
  store := Capability.says_append.mpr ⟨_, first.store, second.store⟩
  outputs := Capability.says_append.mpr ⟨_, first.outputs, second.outputs⟩
  strict := second.strict.trans first.strict
  inputs := second.inputs.trans first.inputs
  queries := second.queries.trans first.queries

theorem of_invoke {call : Call} {answer : Answer}
    (invoked : (session.invoke provider call).run world = ((answer, after), later)) :
    session.GivenBack [⟨call, answer⟩] after := by
  have store : Variables.capability.Says [⟨call, answer⟩] session.store after.store :=
    Faculty.Speaks.cons .store invoked (Faculty.store.speaks_nil after)
  have inputs : VisibleInputs.capability.Says [⟨call, answer⟩] session.inputs after.inputs :=
    Faculty.Speaks.cons .inputs invoked (Faculty.inputs.speaks_nil after)
  refine ⟨store, Faculty.Speaks.cons .outputs invoked (Faculty.outputs.speaks_nil after), ?_, ?_,
    Session.queries_invoke invoked⟩
  · rw [Variables.says_state store, Variables.strict_writeAll]
  · have entered := Ledger.inputs.says_state inputs
    rw [Ledger.inputs_entries] at entered
    exact entered

theorem of_converse {settings : RunSettings} {behaviour : Script.Behaviour} {lastFailure : Option CallError}
    {result : Except ScriptError Unit}
    (told : (behaviour.converse settings provider lastFailure session).run world = ((dialogue, result, after), later)) :
    session.GivenBack dialogue after :=
  Script.Behaviour.converse_induct Session.GivenBack refl (fun invoked rest => (of_invoke invoked).trans rest) told

end Session.GivenBack
end GivenBack

/-- A script to be run. -/
structure Launch where
  interpreter : Script.Interpreter
  settings : RunSettings
  source : String

namespace Launch

section Runs

variable {m : Type → Type} [Monad m]

def run (launch : Launch) (provider : Option (TokenSource m)) (session : Session) : m (Except ScriptError Unit × Session) :=
  Script.runSource launch.interpreter launch.settings provider launch.source session

def converse (launch : Launch) (provider : Option (TokenSource m)) (session : Session) :
    m (List Exchange × Except ScriptError Unit × Session) :=
  Script.converse launch.interpreter launch.settings provider launch.source session

/-- Runs scripts one after the other in one session, whether or not those before failed. -/
def runAll (provider : Option (TokenSource m)) : List Launch → Session → m (List (Except ScriptError Unit) × Session)
  | [], session => pure ([], session)
  | launch :: rest, session => do
    let (result, session) ← launch.run provider session
    let (results, session) ← runAll provider rest session
    return (result :: results, session)

/-- The same with what each of them said. -/
def converseAll (provider : Option (TokenSource m)) :
    List Launch → Session → m (List (List Exchange × Except ScriptError Unit) × Session)
  | [], session => pure ([], session)
  | launch :: rest, session => do
    let (dialogue, result, session) ← launch.converse provider session
    let (others, session) ← converseAll provider rest session
    return ((dialogue, result) :: others, session)

theorem run_eq_converse [LawfulMonad m] (launch : Launch) (provider : Option (TokenSource m)) (session : Session) :
    launch.run provider session = Prod.snd <$> launch.converse provider session :=
  Script.runSource_eq_converse launch.interpreter launch.settings provider launch.source session

theorem runAll_eq_converseAll [LawfulMonad m] (provider : Option (TokenSource m)) (launches : List Launch)
    (session : Session) :
    runAll provider launches session =
      (fun (told, session) => (told.map Prod.snd, session)) <$> converseAll provider launches session := by
  induction launches generalizing session with
  | nil => simp [runAll, converseAll]
  | cons launch rest ih => simp [runAll, converseAll, run_eq_converse, ih]

end Runs

variable {σ : Type}

/-- What is known of a script that was run in a session. -/
structure Ran (launch : Launch) (provider : Option (TokenSource (StateM σ))) (session : Session) (world : σ)
    (dialogue : List Exchange) (result : Except ScriptError Unit) (after : Session) (later : σ) : Prop where
  ran : (launch.run provider session).run world = ((result, after), later)
  /-- It is the same if the capabilities are lent. -/
  lends : (Script.runLending launch.interpreter launch.settings provider launch.source session).run world =
    ((result, after), later)
  told : (launch.converse provider session).run world = ((dialogue, result, after), later)
  said : dialogue = [] ∨ ∃ behaviour ending,
    launch.interpreter launch.settings session.globals launch.source = .runs behaviour ∧ behaviour.Runs dialogue ending
  back : session.GivenBack dialogue after
  /-- A script that could not start made no call. -/
  unstarted : ∀ message, result = .error (.compile message) ∨ result = .error (.engine message) →
    dialogue = [] ∧ after = session ∧ later = world

theorem exists_ran (launch : Launch) (provider : Option (TokenSource (StateM σ))) (session : Session) (world : σ) :
    ∃ dialogue result after later, launch.Ran provider session world dialogue result after later := by
  rcases told : (launch.converse provider session).run world with ⟨⟨dialogue, result, after⟩, later⟩
  have ran : (launch.run provider session).run world = ((result, after), later) := by
    rw [run_eq_converse]
    exact run_map_of Prod.snd told
  have lends := ran
  rw [run, ← Script.runLending_eq] at lends
  rcases Script.converse_cases told with ⟨rfl, rfl, rfl⟩ | ⟨behaviour, starts, spoken⟩
  · exact ⟨[], result, after, later, ran, lends, told, .inl rfl, .refl after, fun _ _ => ⟨rfl, rfl, rfl⟩⟩
  · obtain ⟨ending, runs, reported⟩ := Script.Behaviour.runs_of_converse spoken
    refine ⟨dialogue, result, after, later, ran, lends, told, .inr ⟨behaviour, ending, starts, runs⟩,
      .of_converse spoken, ?_⟩
    intro message failed
    rw [reported] at failed
    cases ending <;> rcases failed with failed | failed <;> cases failed

theorem exists_converseAll (provider : Option (TokenSource (StateM σ))) (launches : List Launch) (session : Session)
    (world : σ) :
    ∃ told after later, (converseAll provider launches session).run world = ((told, after), later) ∧
      session.GivenBack (told.flatMap Prod.fst) after := by
  induction launches generalizing session world with
  | nil => exact ⟨[], session, world, rfl, .refl session⟩
  | cons launch rest ih =>
    obtain ⟨dialogue, result, middle, between, first⟩ := launch.exists_ran provider session world
    obtain ⟨told, after, later, conversed, back⟩ := ih middle between
    refine ⟨(dialogue, result) :: told, after, later, ?_, first.back.trans back⟩
    rw [converseAll, run_bind_of _ first.told]
    exact run_bind_of _ conversed

/-- A session comes back from every run, however it ends, and from runs in a row as from one that made all
their calls. -/
theorem sessions_are_given_back (provider : Option (TokenSource (StateM σ))) (session : Session) (world : σ) :
    (∀ launch : Launch, ∃ dialogue result after later,
      launch.Ran provider session world dialogue result after later) ∧
    ∀ launches, ∃ told after later,
      (converseAll provider launches session).run world = ((told, after), later) ∧
      (runAll provider launches session).run world = ((told.map Prod.snd, after), later) ∧
      session.GivenBack (told.flatMap Prod.fst) after := by
  constructor
  · intro launch
    exact launch.exists_ran provider session world
  · intro launches
    obtain ⟨told, after, later, conversed, back⟩ := exists_converseAll provider launches session world
    refine ⟨told, after, later, conversed, ?_, back⟩
    rw [runAll_eq_converseAll]
    exact run_map_of _ conversed

set_option maxRecDepth 100000 in
/-- The second of three scripts cannot be read, and the first fails after its call. -/
example :
    ((runAll (m := StateM Unit) none [
        ⟨Script.interpret, {}, "variables.write('a', true); throw 1;"⟩,
        ⟨Script.interpret, {}, "var = ;"⟩,
        ⟨Script.interpret, {}, "outputs.set('b', variables.read('a'));"⟩]
      (.start .empty .empty .empty true)).run ()).1.map (List.map (·.isOk)) (fun after =>
        ((Json.object after.outcome.updates).text, (Json.object after.outcome.outputs).text)) =
      ([false, false, true], "\x7b\"a\":true\x7d", "\x7b\"b\":true\x7d") := by
  decide +kernel

end Launch
end ScriptedTask
