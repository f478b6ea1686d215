import ScriptedTask.Proofs.Dialogue

/-! What is told as the cause of a script's failure. The runner remembers the last failed call and
compares messages, so an exception is traced to the call that raised it exactly if no later call
failed otherwise and the message is still the one of the call. -/

namespace ScriptedTask

def Exchange.failure? (exchange : Exchange) : Option CallError :=
  match exchange.answer with
  | .error problem => some problem
  | .ok _ => none

/-- The failures that a script provoked, in order. -/
def failuresOf (dialogue : List Exchange) : List CallError := dialogue.filterMap Exchange.failure?

theorem failuresOf_error (call : Call) (problem : CallError) (dialogue : List Exchange) :
    failuresOf (⟨call, .error problem⟩ :: dialogue) = problem :: failuresOf dialogue := rfl

namespace Script

/-! Runs up to their end -/

section Play

variable {m : Type → Type} [Monad m]

/-- A run up to its end, before anything is made of the end. -/
def Behaviour.play (provider : Option (TokenSource m)) : Behaviour → Session → m (List Exchange × Ending × Session)
  | .ended ending, session => pure ([], ending, session)
  | .call request resume, session => do
    let (answer, session) ← session.invoke provider request
    let (dialogue, ending, session) ← play provider (resume answer) session
    return (⟨request, answer⟩ :: dialogue, ending, session)

/-- What was said in a run of a source and how it ended. Nothing ends if the source does not run. -/
def play (interpreter : Interpreter) (settings : RunSettings) (provider : Option (TokenSource m))
    (source : String) (session : Session) : m (List Exchange × Option Ending × Session) :=
  match checkTargets [] (session.queries.map Query.target) with
  | .error _ => pure ([], none, session)
  | .ok () =>
    if Text.isBlankText source then pure ([], none, session)
    else
      match interpreter settings session.globals source with
      | .runs behaviour => do
        let (dialogue, ending, session) ← behaviour.play provider session
        return (dialogue, some ending, session)
      | _ => pure ([], none, session)

/-- The failure that is remembered at the end of a dialogue. -/
def lastFailureOf (dialogue : List Exchange) (before : Option CallError) : Option CallError :=
  (failuresOf dialogue).getLast?.or before

theorem lastFailureOf_cons (request : Call) (answer : Answer) (dialogue : List Exchange)
    (before : Option CallError) :
    lastFailureOf (⟨request, answer⟩ :: dialogue) before =
      lastFailureOf dialogue (laterFailure answer before) := by
  cases answer with
  | ok value => rfl
  | error problem =>
    rw [lastFailureOf, lastFailureOf, failuresOf_error, List.getLast?_cons]
    cases (failuresOf dialogue).getLast? <;> rfl

variable [LawfulMonad m]

theorem Behaviour.converse_eq_play (settings : RunSettings) (provider : Option (TokenSource m))
    (behaviour : Behaviour) (before : Option CallError) (session : Session) :
    behaviour.converse settings provider before session =
      (fun (dialogue, ending, after) =>
        (dialogue, ending.error? settings (lastFailureOf dialogue before), after)) <$>
        behaviour.play provider session := by
  induction behaviour generalizing before session with
  | ended ending => simp [converse, play, lastFailureOf, failuresOf]
  | call request resume ih => simp [converse, play, ih, lastFailureOf_cons]

theorem Behaviour.perform_eq_play (settings : RunSettings) (provider : Option (TokenSource m))
    (behaviour : Behaviour) (before : Option CallError) (session : Session) :
    behaviour.perform settings provider before session =
      (fun (dialogue, ending, after) => (ending.error? settings (lastFailureOf dialogue before), after)) <$>
        behaviour.play provider session := by
  rw [perform_eq_converse, converse_eq_play, Functor.map_map]

end Play

/-- The behaviour says this, is answered so, and ends with that. -/
inductive Behaviour.Runs : Behaviour → List Exchange → Ending → Prop
  | ended (ending : Ending) : Runs (.ended ending) [] ending
  | called {request : Call} {resume : Answer → Behaviour} {answer : Answer} {dialogue : List Exchange}
      {ending : Ending} (rest : Runs (resume answer) dialogue ending) :
      Runs (.call request resume) (⟨request, answer⟩ :: dialogue) ending

variable {σ : Type} {provider : Option (TokenSource (StateM σ))} {session after : Session} {world later : σ}
  {dialogue : List Exchange}

theorem Behaviour.runs_of_play {behaviour : Behaviour} {ending : Ending}
    (played : (behaviour.play provider session).run world = ((dialogue, ending, after), later)) :
    behaviour.Runs dialogue ending := by
  induction behaviour generalizing session world dialogue with
  | ended ending => cases played; exact .ended _
  | call request resume ih =>
    obtain ⟨⟨answer, middle⟩, between, invoked, resumed⟩ := run_bind_eq played
    obtain ⟨⟨rest, final⟩, last, spoken, ended⟩ := run_bind_eq resumed
    cases ended
    exact .called (ih answer spoken)

theorem Behaviour.runs_of_converse {settings : RunSettings} {behaviour : Behaviour} {lastFailure : Option CallError}
    {result : Except ScriptError Unit}
    (told : (behaviour.converse settings provider lastFailure session).run world = ((dialogue, result, after), later)) :
    ∃ ending, behaviour.Runs dialogue ending ∧ result = ending.error? settings (lastFailureOf dialogue lastFailure) := by
  rcases played : (behaviour.play provider session).run world with ⟨⟨said, ending, left⟩, last⟩
  rw [converse_eq_play, run_map_of _ played] at told
  cases told
  exact ⟨ending, runs_of_play played, rfl⟩

/-- A source that comes to an end ran as a behaviour, and the runner makes of the end what the last
failure allows. -/
theorem play_ending {interpreter : Interpreter} {settings : RunSettings} {source : String} {ending : Ending}
    (played : (play interpreter settings provider source session).run world =
      ((dialogue, some ending, after), later)) :
    (∃ behaviour, interpreter settings session.globals source = .runs behaviour ∧
      behaviour.Runs dialogue ending) ∧
    (runSource interpreter settings provider source session).run world =
      ((ending.error? settings (failuresOf dialogue).getLast?, after), later) := by
  unfold play at played
  split at played
  next => cases played
  next allowed =>
    split at played
    next => cases played
    next unblank =>
      split at played
      next behaviour runs =>
        obtain ⟨⟨said, final, left⟩, between, spoken, ended⟩ := run_bind_eq played
        cases ended
        refine ⟨⟨behaviour, runs, Behaviour.runs_of_play spoken⟩, ?_⟩
        simp only [runSource, allowed, unblank, runs, Behaviour.perform_eq_play, lastFailureOf, Option.or_none]
        exact run_map_of _ spoken
      next => cases played

/-! The errors that failed calls raise -/

namespace Machine

/-- A machine says this, is answered so, and ends with that. Each failed call adds its error to the
heap, at one of the places, and the script is resumed with it. -/
inductive Runs (e : Evaluator) : Running → List Exchange → List Nat → Finish → Prop
  | ended {running : Running} {finish : Finish} (stepped : step e running = .ended finish) :
      Runs e running [] [] finish
  | next {running following : Running} {dialogue : List Exchange} {places : List Nat} {finish : Finish}
      (stepped : step e running = .next following) (rest : Runs e following dialogue places finish) :
      Runs e running dialogue places finish
  | answered {running : Running} {heap : Heap} {call : Call} {resume : Heap → Except Value (Option Json) → Running}
      {value : Option Json} {dialogue : List Exchange} {places : List Nat} {finish : Finish}
      (stepped : step e running = .outside heap call resume)
      (rest : Runs e (resume heap (.ok value)) dialogue places finish) :
      Runs e running (⟨call, .ok value⟩ :: dialogue) places finish
  | failed {running : Running} {heap : Heap} {call : Call} {resume : Heap → Except Value (Option Json) → Running}
      {problem : CallError} {dialogue : List Exchange} {places : List Nat} {finish : Finish}
      (stepped : step e running = .outside heap call resume)
      (rest : Runs e (resume (heap.add (failureObject problem)).2 (.error (.object (heap.add (failureObject problem)).1)))
        dialogue places finish) :
      Runs e running (⟨call, .error problem⟩ :: dialogue) ((heap.add (failureObject problem)).1 :: places) finish

/-- Every failed call raised one error. -/
theorem Runs.length_places {e : Evaluator} {running : Running} {places : List Nat} {finish : Finish}
    (ran : Runs e running dialogue places finish) : places.length = (failuresOf dialogue).length := by
  induction ran with
  | ended _ => rfl
  | next _ _ ih => exact ih
  | answered _ _ ih => exact ih
  | failed _ _ ih => rw [List.length_cons, ih, failuresOf_error, List.length_cons]

/-- A driven machine runs out of fuel, or it runs to its end, and its ending knows the places of the
errors that were raised. -/
theorem runs_of_drive {e : Evaluator} {fuel : Nat} {raised : List Nat} {running : Running} {ending : Ending}
    (ran : (drive e fuel raised running).Runs dialogue ending) :
    ending = .outOfTime ∨
      ∃ places finish, Runs e running dialogue places finish ∧ ending = finish.ending (raised ++ places) := by
  induction fuel generalizing raised running dialogue with
  | zero => cases ran; exact .inl rfl
  | succ fuel ih =>
    unfold drive at ran
    split at ran
    next finish stepped =>
      cases ran
      exact .inr ⟨[], finish, .ended stepped, by rw [List.append_nil]⟩
    next following stepped =>
      refine (ih ran).imp_right ?_
      rintro ⟨places, finish, rest, ends⟩
      exact ⟨places, finish, .next stepped rest, ends⟩
    next heap call resume stepped =>
      cases ran with
      | @called _ _ answer _ _ rest =>
        cases answer with
        | ok value =>
          refine (ih rest).imp_right ?_
          rintro ⟨places, finish, rest, ends⟩
          exact ⟨places, finish, .answered stepped rest, ends⟩
        | error problem =>
          refine (ih rest).imp_right ?_
          rintro ⟨places, finish, rest, ends⟩
          exact ⟨_, finish, .failed stepped rest, by rw [ends, List.append_assoc]; rfl⟩

theorem originOf_eq_some {raised : List Nat} {value : Value} {i : Nat} (origin : originOf raised value = some i) :
    ∃ id, raised[i]? = some id ∧ value = .object id := by
  unfold originOf at origin
  split at origin
  next id =>
    obtain ⟨inside, same, _⟩ := List.idxOf?_eq_some_iff.mp origin
    exact ⟨id, by rw [List.getElem?_eq_getElem inside, same], rfl⟩
  next => cases origin

theorem originOf_eq_none {raised : List Nat} {value : Value} (origin : originOf raised value = none) :
    ∀ id ∈ raised, value ≠ .object id := by
  rintro id member rfl
  rw [originOf, List.idxOf?_eq_none_iff] at origin
  exact origin member

end Machine

theorem interpret_runs {settings : RunSettings} {globals : List Session.Global} {source : String}
    {behaviour : Behaviour} (starts : interpret settings globals source = .runs behaviour) :
    behaviour = runStrictly settings globals source.toList := by
  simp only [interpret] at starts
  split at starts
  next => cases starts
  next =>
    split at starts
    next => cases starts
    next =>
      split at starts
      next => cases starts
      next => cases starts; rfl

/-- What the origin of an exception tells. Where nothing of the source ran there is none. A source
that ran was left with a value, and the origin is the failed call whose error this value is. -/
inductive Attributed (settings : RunSettings) (globals : List Session.Global) (source : String)
    (dialogue : List Exchange) (exception : Uncaught) : Prop where
  | unread (silent : dialogue = []) (made : exception.origin = none)
  | ran {program : Program} {places : List Nat} {value : Value} {told : Uncaught}
      (read : Program.read true source.toList = .ok program)
      (drove : Machine.Runs (Eval.evaluator program.depth)
        (.script (Eval.runToEnd (Eval.evaluator program.depth) program (startingHeap settings globals)))
        dialogue places (.thrown value told))
      (raised : ∀ i, exception.origin = some i → ∃ id, places[i]? = some id ∧ value = .object id)
      (made : exception.origin = none → ∀ id ∈ places, value ≠ .object id)

theorem attributed_of_runs {settings : RunSettings} {globals : List Session.Global} {source : String}
    {behaviour : Behaviour} {exception : Uncaught}
    (starts : interpret settings globals source = .runs behaviour)
    (ran : behaviour.Runs dialogue (.thrown exception)) :
    Attributed settings globals source dialogue exception := by
  obtain rfl := interpret_runs starts
  unfold runStrictly at ran
  split at ran
  next => cases ran; exact .unread rfl rfl
  next =>
    split at ran
    next => cases ran; exact .unread rfl rfl
    next program read =>
      split at ran
      next => cases ran; exact .unread rfl rfl
      next =>
        rcases Machine.runs_of_drive ran with late | ⟨places, finish, drove, ends⟩
        · cases late
        · cases finish with
          | thrown value told =>
            cases ends
            exact .ran read drove (fun _ => Machine.originOf_eq_some) Machine.originOf_eq_none
          | done => cases ends
          | stopped => cases ends

theorem Attributed.origin_lt {settings : RunSettings} {globals : List Session.Global} {source : String}
    {exception : Uncaught} {i : Nat} (attributed : Attributed settings globals source dialogue exception)
    (origin : exception.origin = some i) : i < (failuresOf dialogue).length := by
  cases attributed with
  | unread _ made =>
    rw [made] at origin
    cases origin
  | ran _ drove raised _ =>
    obtain ⟨id, placed, _⟩ := raised i origin
    rw [← drove.length_places]
    exact (List.getElem?_eq_some_iff.mp placed).1

/-- What is told as the cause of an uncaught error, given its message and the failures before it. -/
structure Traced (failures : List CallError) (exception : Uncaught) (message : String)
    (cause : Option CallError) : Prop where
  told : ∀ problem, cause = some problem ↔ failures.getLast? = some problem ∧ problem.message = message
  /-- The error of a failed call is traced to it if its failure is the last one and the message is kept. -/
  raised : ∀ i, exception.origin = some i → ∃ problem, failures[i]? = some problem ∧
    (cause = some problem ↔ failures.getLast? = some problem ∧ problem.message = message)
  /-- Any other error is not traced unless it has the message of the last failure. -/
  made : exception.origin = none → (cause = none ↔ ∀ last, failures.getLast? = some last → last.message ≠ message)

theorem causeOf_eq_some {exception : Uncaught} {message : String} (isError : exception.message = some message)
    {last : Option CallError} {problem : CallError} :
    causeOf exception last = some problem ↔ last = some problem ∧ problem.message = message := by
  simp only [causeOf, isError, Option.filter_eq_some_iff, decide_eq_true_eq]

/-- A script that ends with an uncaught error is told to have failed by the last failed call if the
messages agree. So an error that a failed call raised is traced to it exactly if no other failure
came after it and its message was kept. -/
theorem uncaught_error_is_traced_by_message (settings : RunSettings) (provider : Option (TokenSource (StateM σ)))
    (source : String) (session after : Session) (world later : σ) (dialogue : List Exchange)
    (exception : Uncaught) (message : String)
    (played : (play interpret settings provider source session).run world =
      ((dialogue, some (.thrown exception), after), later))
    (isError : exception.message = some message) :
    Attributed settings session.globals source dialogue exception ∧
      ∃ cause, (runSource interpret settings provider source session).run world =
          ((.error (.runtime exception.text cause), after), later) ∧
        Traced (failuresOf dialogue) exception message cause := by
  obtain ⟨⟨behaviour, starts, ran⟩, reported⟩ := play_ending played
  have attributed := attributed_of_runs starts ran
  refine ⟨attributed, _, reported, fun problem => causeOf_eq_some isError, ?_, ?_⟩
  · intro i origin
    exact ⟨_, List.getElem?_eq_getElem (attributed.origin_lt origin), causeOf_eq_some isError⟩
  · intro made
    simp only [Option.eq_none_iff_forall_ne_some, ne_eq, causeOf_eq_some isError, not_and]

def forgetfulScript : String :=
  "var first; try \x7b variables.ref('a'); \x7d catch (e) \x7b first = e; \x7d try \x7b variables.ref('b'); \x7d catch (e) \x7b \x7d throw first;"

def forgingScript : String :=
  "try \x7b variables.ref('a'); \x7d catch (e) \x7b \x7d throw new Error(\"unknown variable name 'a'\");"

def emptySession : Session := .start .empty .empty .empty false

/-- The failures that a source provokes in an empty session, and how it ends there. -/
def outcomeOf (source : String) : List CallError × Option Ending :=
  let ((dialogue, ending, _), _) := (play (m := StateM Unit) interpret {} none source emptySession).run ()
  (failuresOf dialogue, ending)

theorem exists_of_outcomeOf {source : String} {failures : List CallError} {ending : Option Ending}
    (known : outcomeOf source = (failures, ending)) :
    ∃ dialogue after, (play (m := StateM Unit) interpret {} none source emptySession).run () = ((dialogue, ending, after), ()) ∧
      failuresOf dialogue = failures := by
  cases known
  exact ⟨_, _, rfl, rfl⟩

set_option maxRecDepth 100000 in
theorem outcomeOf_forging : outcomeOf forgingScript =
    ([.unknownVariable "a"],
      some (.thrown ⟨"unknown variable name 'a'", some "unknown variable name 'a'", none⟩)) := by
  decide +kernel

/-- No call raised the error that this script ends with, and still it is traced to one. -/
theorem forged_error_is_traced : ∃ after,
    (runSource (m := StateM Unit) interpret {} none forgingScript emptySession).run () =
      ((.error (.runtime "unknown variable name 'a'" (some (.unknownVariable "a"))), after), ()) := by
  obtain ⟨dialogue, after, played, failed⟩ := exists_of_outcomeOf outcomeOf_forging
  obtain ⟨_, cause, ran, traced⟩ := uncaught_error_is_traced_by_message _ _ _ _ _ _ _ _ _ _ played rfl
  have known : cause = some (.unknownVariable "a") := by
    rw [traced.told, failed]
    exact ⟨rfl, rfl⟩
  exact ⟨after, known ▸ ran⟩

set_option maxRecDepth 100000 in
theorem outcomeOf_forgetful : outcomeOf forgetfulScript =
    ([.unknownVariable "a", .unknownVariable "b"],
      some (.thrown ⟨"unknown variable name 'a'", some "unknown variable name 'a'", some 0⟩)) := by
  decide +kernel

/-- The first of two failed calls raised the error that this script ends with, and it is traced to none. -/
theorem first_failure_is_forgotten : ∃ dialogue after exception,
    (play (m := StateM Unit) interpret {} none forgetfulScript emptySession).run () =
      ((dialogue, some (.thrown exception), after), ()) ∧
    exception.origin = some 0 ∧ (failuresOf dialogue)[0]? = some (.unknownVariable "a") ∧
    (runSource (m := StateM Unit) interpret {} none forgetfulScript emptySession).run () =
      ((.error (.runtime "unknown variable name 'a'" none), after), ()) := by
  obtain ⟨dialogue, after, played, failed⟩ := exists_of_outcomeOf outcomeOf_forgetful
  refine ⟨dialogue, after, _, played, rfl, by rw [failed]; rfl, ?_⟩
  obtain ⟨_, ran⟩ := play_ending played
  rw [ran, failed]
  rfl

end Script
end ScriptedTask
