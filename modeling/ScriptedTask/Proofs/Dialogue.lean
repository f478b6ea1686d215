import ScriptedTask.Proofs.Running

/-! What a script and its session say to each other. A run with its dialogue is the run itself,
and each capability of the session gives the answers that it would give to its own calls alone:
nothing that is said to others reaches its state. -/

namespace ScriptedTask

/-- A call of a script with the answer that it got. -/
structure Exchange where
  call : Call
  answer : Answer

def callsTo (target : String) (dialogue : List Exchange) : List Call :=
  (dialogue.filter (·.call.target = target)).map Exchange.call

def answersFrom (target : String) (dialogue : List Exchange) : List Answer :=
  (dialogue.filter (·.call.target = target)).map Exchange.answer

/-- The method does to a changed state what it does to the state, and answers the same. -/
def Method.Commutes {τ : Type} (change : τ → τ) (method : Method τ) : Prop :=
  ∀ call state, method.run call (change state) =
    ((method.run call state).1, change (method.run call state).2)

namespace Capability

variable {τ : Type}

/-- The answers to calls made one after the other, and the state that they leave. -/
def converse (capability : Capability τ) : List Call → τ → List Answer × τ
  | [], state => ([], state)
  | call :: rest, state =>
    let (answer, next) := capability.invoke call state
    let (answers, last) := capability.converse rest next
    (answer :: answers, last)

theorem invoke_change {capability : Capability τ} {change : τ → τ}
    (commutes : ∀ method ∈ capability.methods, method.Commutes change) (call : Call) (state : τ) :
    capability.invoke call (change state) =
      ((capability.invoke call state).1, change (capability.invoke call state).2) := by
  unfold invoke
  cases found : capability.methods.find? (·.name = call.method) with
  | none => rfl
  | some method => exact commutes method (List.mem_of_find?_eq_some found) call state

theorem converse_change {capability : Capability τ} {change : τ → τ}
    (commutes : ∀ method ∈ capability.methods, method.Commutes change) (calls : List Call) (state : τ) :
    capability.converse calls (change state) =
      ((capability.converse calls state).1, change (capability.converse calls state).2) := by
  induction calls generalizing state with
  | nil => rfl
  | cons call rest ih => simp only [converse, invoke_change commutes, ih]

theorem invoke_cases (capability : Capability τ) (call : Call) (state : τ) :
    capability.invoke call state = (.error (.unknownMethod capability.target call.method), state) ∨
      ∃ method ∈ capability.methods, method.name = call.method ∧
        capability.invoke call state = method.run call state := by
  unfold invoke
  cases found : capability.methods.find? (·.name = call.method) with
  | none => exact .inl rfl
  | some method =>
    have named := List.find?_some found
    exact .inr ⟨method, List.mem_of_find?_eq_some found, of_decide_eq_true named, rfl⟩

/-- In the dialogue the capability answers as it would answer its own calls alone, and what others
are told does not reach it. -/
def Says (capability : Capability τ) (dialogue : List Exchange) (before after : τ) : Prop :=
  capability.converse (callsTo capability.target dialogue) before =
    (answersFrom capability.target dialogue, after)

theorem says_nil {capability : Capability τ} {before after : τ} :
    capability.Says [] before after ↔ before = after := by
  simp [Says, callsTo, answersFrom, converse]

theorem says_cons {capability : Capability τ} {call : Call} {answer : Answer} {dialogue : List Exchange}
    {before after : τ} :
    capability.Says (⟨call, answer⟩ :: dialogue) before after ↔
      if call.target = capability.target
      then ∃ middle, capability.invoke call before = (answer, middle) ∧ capability.Says dialogue middle after
      else capability.Says dialogue before after := by
  unfold Says callsTo answersFrom
  split
  next same =>
    simp only [List.filter_cons, same, decide_true, if_true, List.map_cons, converse, Prod.mk.injEq,
      List.cons.injEq]
    constructor
    · rintro ⟨⟨first, others⟩, ended⟩
      exact ⟨_, Prod.ext first rfl, Prod.ext others ended⟩
    · rintro ⟨middle, invoked, rest⟩
      simp [invoked, rest]
  next differ => simp only [List.filter_cons, differ, decide_false, Bool.false_eq_true, if_false]

/-- A dialogue goes on from where its first part ended. -/
theorem says_append {capability : Capability τ} {first second : List Exchange} {before after : τ} :
    capability.Says (first ++ second) before after ↔
      ∃ middle, capability.Says first before middle ∧ capability.Says second middle after := by
  induction first generalizing before with
  | nil => simp [says_nil]
  | cons exchange rest ih =>
    obtain ⟨call, answer⟩ := exchange
    by_cases addressed : call.target = capability.target
    · simp only [List.cons_append, says_cons, addressed, if_true, ih]
      constructor
      · rintro ⟨next, invoked, middle, spoken, others⟩
        exact ⟨middle, ⟨next, invoked, spoken⟩, others⟩
      · rintro ⟨middle, ⟨next, invoked, spoken⟩, others⟩
        exact ⟨next, invoked, middle, spoken, others⟩
    · simp only [List.cons_append, says_cons, addressed, if_false, ih]

theorem Says.change {capability : Capability τ} {change : τ → τ}
    (commutes : ∀ method ∈ capability.methods, method.Commutes change) {dialogue : List Exchange}
    {before after : τ} (said : capability.Says dialogue before after) :
    capability.Says dialogue (change before) (change after) := by
  unfold Says at *
  rw [converse_change commutes, said]

end Capability

/-- A capability as a part of the session: it alone answers the calls to its target, and nothing
else changes its state. -/
structure Faculty (τ : Type) where
  capability : Capability τ
  state : Session → τ
  addressed : ∀ session call, call.target = capability.target → ∃ answer after,
    session.invokeCapability? call = some (answer, after) ∧
      capability.invoke call (state session) = (answer, state after)
  untouched : ∀ session call answer after, call.target ≠ capability.target →
    session.invokeCapability? call = some (answer, after) → state after = state session
  tokenless : ∀ session token, state { session with token } = state session

namespace Faculty

def store : Faculty Variables where
  capability := Variables.capability
  state := Session.store
  addressed session call same := by
    refine ⟨(Variables.capability.invoke call session.store).1,
      { session with store := (Variables.capability.invoke call session.store).2 }, ?_, rfl⟩
    rw [Session.invokeCapability?, if_pos same]
  untouched session call answer after differ answered := by
    rw [Session.invokeCapability?, if_neg differ] at answered
    split at answered
    · cases answered; rfl
    · split at answered <;> cases answered
      rfl
  tokenless _ _ := rfl

def inputs : Faculty VisibleInputs where
  capability := VisibleInputs.capability
  state := Session.inputs
  addressed session call same := by
    have differ : call.target ≠ Variables.capability.target := by rw [same]; decide
    refine ⟨(VisibleInputs.capability.invoke call session.inputs).1,
      { session with inputs := (VisibleInputs.capability.invoke call session.inputs).2 }, ?_, rfl⟩
    rw [Session.invokeCapability?, if_neg differ, if_pos same]
  untouched session call answer after differ answered := by
    simp only [Session.invokeCapability?, if_neg differ] at answered
    split at answered
    · cases answered; rfl
    · split at answered <;> cases answered
      rfl
  tokenless _ _ := rfl

def outputs : Faculty Outputs where
  capability := Outputs.capability
  state := Session.outputs
  addressed session call same := by
    have first : call.target ≠ Variables.capability.target := by rw [same]; decide
    have second : call.target ≠ VisibleInputs.capability.target := by rw [same]; decide
    refine ⟨(Outputs.capability.invoke call session.outputs).1,
      { session with outputs := (Outputs.capability.invoke call session.outputs).2 }, ?_, rfl⟩
    rw [Session.invokeCapability?, if_neg first, if_neg second, if_pos same]
  untouched session call answer after differ answered := by
    simp only [Session.invokeCapability?, if_neg differ] at answered
    split at answered
    · cases answered; rfl
    · split at answered <;> cases answered
      rfl
  tokenless _ _ := rfl

variable {τ σ : Type} (faculty : Faculty τ)

/-- One call: the capability answers what is said to it and is left alone by all else. -/
theorem invoke {provider : Option (TokenSource (StateM σ))} {session after : Session} {call : Call}
    {answer : Answer} {world later : σ}
    (invoked : (session.invoke provider call).run world = ((answer, after), later)) :
    if call.target = faculty.capability.target
    then faculty.capability.invoke call (faculty.state session) = (answer, faculty.state after)
    else faculty.state after = faculty.state session := by
  split
  next same =>
    obtain ⟨known, next, answered, capability⟩ := faculty.addressed session call same
    rw [Session.invoke, answered] at invoked
    cases invoked
    exact capability
  next differ =>
    rw [Session.invoke] at invoked
    split at invoked
    next answered found =>
      cases invoked
      exact faculty.untouched session call answer after differ found
    next missing =>
      split at invoked
      · cases invoked
        exact faculty.tokenless session _
      · cases invoked
        rfl

end Faculty

namespace Script

/-- A script that makes the same calls whatever it is answered. -/
def Behaviour.ofCalls : List Call → Behaviour
  | [] => .ended .finished
  | request :: rest => .call request fun _ => ofCalls rest

variable {m : Type → Type} [Monad m]

/-- A run together with its dialogue. -/
def Behaviour.converse (settings : RunSettings) (provider : Option (TokenSource m)) :
    Behaviour → Option CallError → Session → m (List Exchange × Except ScriptError Unit × Session)
  | .ended ending, lastFailure, session => pure ([], ending.error? settings lastFailure, session)
  | .call request resume, lastFailure, session => do
    let (answer, session) ← session.invoke provider request
    let (dialogue, finished) ←
      converse settings provider (resume answer) (laterFailure answer lastFailure) session
    return (⟨request, answer⟩ :: dialogue, finished)

/-- Runs a source together with its dialogue. A source that does not run says nothing. -/
def converse (interpreter : Interpreter) (settings : RunSettings) (provider : Option (TokenSource m))
    (source : String) (session : Session) : m (List Exchange × Except ScriptError Unit × Session) :=
  match checkTargets [] (session.queries.map Query.target) with
  | .error error => pure ([], .error error, session)
  | .ok () =>
    if Text.isBlankText source then pure ([], .ok (), session)
    else
      match interpreter settings session.globals source with
      | .refused message => pure ([], .error (.engine message), session)
      | .unreadable message => pure ([], .error (.compile message), session)
      | .runs behaviour => behaviour.converse settings provider none session

variable [LawfulMonad m]

theorem Behaviour.perform_eq_converse (settings : RunSettings) (provider : Option (TokenSource m))
    (behaviour : Behaviour) (lastFailure : Option CallError) (session : Session) :
    behaviour.perform settings provider lastFailure session =
      Prod.snd <$> behaviour.converse settings provider lastFailure session := by
  induction behaviour generalizing lastFailure session with
  | ended ending => simp [perform, converse]
  | call request resume ih => simp [perform, converse, ih]

theorem runSource_eq_converse (interpreter : Interpreter) (settings : RunSettings)
    (provider : Option (TokenSource m)) (source : String) (session : Session) :
    runSource interpreter settings provider source session =
      Prod.snd <$> converse interpreter settings provider source session := by
  unfold runSource converse
  cases checkTargets [] (session.queries.map Query.target) with
  | error error => simp
  | ok _ =>
    by_cases blank : Text.isBlankText source = true
    · simp [blank]
    · cases interpreter settings session.globals source <;>
        simp [blank, Behaviour.perform_eq_converse]

/-- What every call carries on holds of the whole run. -/
theorem Behaviour.converse_induct {σ : Type} {settings : RunSettings} {provider : Option (TokenSource (StateM σ))}
    (related : Session → List Exchange → Session → Prop) (silent : ∀ session, related session [] session)
    (step : ∀ {session middle after call answer dialogue world later},
      (session.invoke provider call).run world = ((answer, middle), later) → related middle dialogue after →
        related session (⟨call, answer⟩ :: dialogue) after)
    {behaviour : Behaviour} {lastFailure : Option CallError} {session after : Session} {dialogue : List Exchange}
    {result : Except ScriptError Unit} {world later : σ}
    (told : (behaviour.converse settings provider lastFailure session).run world = ((dialogue, result, after), later)) :
    related session dialogue after := by
  induction behaviour generalizing lastFailure session world dialogue with
  | ended ending =>
    cases told
    exact silent _
  | call request resume ih =>
    obtain ⟨⟨answer, middle⟩, between, invoked, resumed⟩ := run_bind_eq told
    obtain ⟨⟨rest, finished⟩, last, spoken, ended⟩ := run_bind_eq resumed
    cases ended
    exact step invoked (ih answer spoken)

/-- Either nothing comes of a source, or it runs. -/
theorem converse_cases {σ : Type} {interpreter : Interpreter} {settings : RunSettings}
    {provider : Option (TokenSource (StateM σ))} {source : String} {session after : Session}
    {dialogue : List Exchange} {result : Except ScriptError Unit} {world later : σ}
    (ran : (converse interpreter settings provider source session).run world = ((dialogue, result, after), later)) :
    (dialogue = [] ∧ after = session ∧ later = world) ∨
      ∃ behaviour, interpreter settings session.globals source = .runs behaviour ∧
        (behaviour.converse settings provider none session).run world = ((dialogue, result, after), later) := by
  unfold converse at ran
  split at ran
  · cases ran
    exact .inl ⟨rfl, rfl, rfl⟩
  · split at ran
    · cases ran
      exact .inl ⟨rfl, rfl, rfl⟩
    · split at ran
      · cases ran
        exact .inl ⟨rfl, rfl, rfl⟩
      · cases ran
        exact .inl ⟨rfl, rfl, rfl⟩
      next behaviour runs => exact .inr ⟨behaviour, runs, ran⟩

end Script

namespace Faculty

variable {τ σ : Type} (faculty : Faculty τ)

/-- The part that the capability takes in a dialogue of the session. -/
def Speaks (dialogue : List Exchange) (before after : Session) : Prop :=
  faculty.capability.Says dialogue (faculty.state before) (faculty.state after)

theorem speaks_nil (session : Session) : faculty.Speaks [] session session := Capability.says_nil.mpr rfl

theorem Speaks.cons {provider : Option (TokenSource (StateM σ))} {session middle after : Session}
    {call : Call} {answer : Answer} {dialogue : List Exchange} {world later : σ}
    (invoked : (session.invoke provider call).run world = ((answer, middle), later))
    (rest : faculty.Speaks dialogue middle after) :
    faculty.Speaks (⟨call, answer⟩ :: dialogue) session after := by
  have step := faculty.invoke invoked
  apply Capability.says_cons.mpr
  split
  next same => exact ⟨faculty.state middle, by simpa [same] using step, rest⟩
  next differ =>
    have kept : faculty.state middle = faculty.state session := by simpa [differ] using step
    exact kept ▸ rest

theorem speaks_behaviour {settings : RunSettings} {provider : Option (TokenSource (StateM σ))}
    {behaviour : Script.Behaviour} {lastFailure : Option CallError} {session after : Session}
    {dialogue : List Exchange} {result : Except ScriptError Unit} {world later : σ}
    (ran : (behaviour.converse settings provider lastFailure session).run world =
      ((dialogue, result, after), later)) : faculty.Speaks dialogue session after :=
  Script.Behaviour.converse_induct (fun before said after => faculty.Speaks said before after) faculty.speaks_nil
    (fun invoked rest => Speaks.cons faculty invoked rest) ran

theorem speaks_converse {interpreter : Script.Interpreter} {settings : RunSettings}
    {provider : Option (TokenSource (StateM σ))} {source : String} {session after : Session}
    {dialogue : List Exchange} {result : Except ScriptError Unit} {world later : σ}
    (ran : (Script.converse interpreter settings provider source session).run world =
      ((dialogue, result, after), later)) : faculty.Speaks dialogue session after := by
  rcases Script.converse_cases ran with ⟨rfl, rfl, rfl⟩ | ⟨behaviour, _, spoken⟩
  · exact faculty.speaks_nil _
  · exact faculty.speaks_behaviour spoken

end Faculty
end ScriptedTask
