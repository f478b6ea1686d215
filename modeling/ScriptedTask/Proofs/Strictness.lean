import ScriptedTask.Proofs.Causes
import ScriptedTask.Proofs.Template.Tokens

/-! Stores that are strict and stores that are not. They hold the same after the same calls, and their
answers differ in one case alone: a token is taken apart whose name is not bound at that moment. A script that
never comes to this in a strict store runs in any other just as well. -/

namespace ScriptedTask

/-- The call takes apart a token of the name. -/
structure Call.Resolves (call : Call) (name : String) : Prop where
  method : call.method = "derefName" ∨ call.method = "derefValue"
  token : call.text 0 = .ok (Reference.token name)

/-- What a name stands for that is not bound: itself, or no value. -/
def Call.unbound (call : Call) (name : String) : Option Json :=
  if call.method = "derefName" then some (.string name) else none

namespace Variables

/-- The call takes apart a token of the name, which the store does not have. -/
def Lacks (store : Variables) (call : Call) (name : String) : Prop :=
  call.Resolves name ∧ store.isBound name = false

def withStrict (strict : Bool) (store : Variables) : Variables := { store with strict }

section Answers

variable {store : Variables} {call : Call} {name : String}

theorem invoke_derefName (named : call.method = "derefName") (store : Variables) :
    capability.invoke call store =
      ((call.text 0 >>= store.referencedName).map fun name => some (Json.string name), store) := by
  obtain ⟨target, method, arguments⟩ := call
  cases named
  show ((do return some (Json.string (← store.referencedName (← Call.text _ 0)))), store) = _
  cases Call.text ⟨target, "derefName", arguments⟩ 0 with
  | error problem => rfl
  | ok reference => cases store.referencedName reference <;> rfl

theorem invoke_derefValue (named : call.method = "derefValue") (store : Variables) :
    capability.invoke call store = (call.text 0 >>= store.referencedValue, store) := by
  obtain ⟨target, method, arguments⟩ := call
  cases named
  rfl

theorem referencedName_unbound (unbound : store.isBound name = false) :
    store.referencedName (Reference.token name) =
      if store.strict then .error (.unknownVariable name) else .ok name := by
  rw [referencedName, Reference.parse_token]
  simp only [unbound, Bool.not_false, Bool.and_true]

/-- Only the token of an unbound name shows whether the store is strict. -/
theorem referencedName_withStrict {reference : String}
    (bound : ∀ name, reference = Reference.token name → store.isBound name = true) (strict : Bool) :
    (store.withStrict strict).referencedName reference = store.referencedName reference := by
  rw [referencedName, referencedName]
  cases parsed : Reference.parse reference with
  | error problem => rfl
  | ok name =>
    have held := bound name (Reference.parse_ok_iff.mp parsed).symm
    have same : (store.withStrict strict).isBound name = true := held
    simp only [held, same, Bool.not_true, Bool.and_false]

theorem answer_of_lacks (lacks : store.Lacks call name) :
    (capability.invoke call store).1 =
      if store.strict then .error (.unknownVariable name) else .ok (call.unbound name) := by
  obtain ⟨⟨method, token⟩, unbound⟩ := lacks
  rcases method with named | named
  · rw [invoke_derefName named, token, Call.unbound, if_pos named]
    dsimp only [bind, Except.bind]
    rw [referencedName_unbound unbound]
    cases store.strict <;> rfl
  · have other : call.method ≠ "derefName" := by rw [named]; decide
    have missing : store.read? name = none := by
      cases found : store.read? name with
      | none => rfl
      | some value =>
        rw [isBound_of_read? found] at unbound
        cases unbound
    rw [invoke_derefValue named, token, Call.unbound, if_neg other]
    dsimp only [bind, Except.bind]
    rw [referencedValue, referencedName_unbound unbound]
    cases store.strict with
    | true => rfl
    | false => exact congrArg Except.ok missing

/-- Of the methods, only those that take tokens apart ask whether the store is strict, and they change nothing. -/
theorem run_withStrict {method : Method Variables} (member : method ∈ capability.methods) (call : Call)
    (store : Variables) (strict : Bool) :
    (method.run call (store.withStrict strict)).2 = (method.run call store).2.withStrict strict ∧
    (method.name ≠ "derefName" → method.name ≠ "derefValue" →
      (method.run call (store.withStrict strict)).1 = (method.run call store).1) := by
  simp only [capability, List.mem_cons, List.not_mem_nil, or_false] at member
  rcases member with rfl | rfl | rfl | rfl | rfl | rfl | rfl
  · cases text : call.text 0 <;> simp [Method.writing, text, write, withStrict]
  · exact ⟨rfl, fun _ _ => rfl⟩
  · exact ⟨rfl, fun _ _ => rfl⟩
  · exact ⟨rfl, fun _ _ => rfl⟩
  · exact ⟨rfl, fun other => absurd rfl other⟩
  · exact ⟨rfl, fun _ other => absurd rfl other⟩
  · exact ⟨rfl, fun _ _ => rfl⟩

/-- All other calls are answered alike. -/
theorem answer_withStrict (spared : ∀ name, ¬store.Lacks call name) (strict : Bool) :
    (capability.invoke call (store.withStrict strict)).1 = (capability.invoke call store).1 := by
  have bound : ∀ {reference}, call.method = "derefName" ∨ call.method = "derefValue" → call.text 0 = .ok reference →
      ∀ name, reference = Reference.token name → store.isBound name = true := by
    intro reference method text name same
    rw [← Bool.not_eq_false]
    exact fun unbound => spared name ⟨⟨method, same ▸ text⟩, unbound⟩
  by_cases asksName : call.method = "derefName"
  · rw [invoke_derefName asksName, invoke_derefName asksName]
    cases text : call.text 0 with
    | error problem => rfl
    | ok reference =>
      dsimp only [bind, Except.bind]
      rw [referencedName_withStrict (bound (.inl asksName) text)]
  by_cases asksValue : call.method = "derefValue"
  · rw [invoke_derefValue asksValue, invoke_derefValue asksValue]
    cases text : call.text 0 with
    | error problem => rfl
    | ok reference =>
      dsimp only [bind, Except.bind]
      rw [referencedValue, referencedValue, referencedName_withStrict (bound (.inr asksValue) text)]
      rfl
  unfold Capability.invoke
  cases found : capability.methods.find? (·.name = call.method) with
  | none => rfl
  | some method =>
    have named := List.find?_some found
    rw [decide_eq_true_eq] at named
    rw [← named] at asksName asksValue
    exact (run_withStrict (List.mem_of_find?_eq_some found) call store strict).2 asksName asksValue

/-- Being strict has no part in what a call leaves behind, not even in what a refused call does. -/
theorem state_withStrict (call : Call) (store : Variables) (strict : Bool) :
    (capability.invoke call (store.withStrict strict)).2 = (capability.invoke call store).2.withStrict strict := by
  unfold Capability.invoke
  cases found : capability.methods.find? (·.name = call.method) with
  | none => rfl
  | some method => exact (run_withStrict (List.mem_of_find?_eq_some found) call store strict).1

end Answers

theorem converse_withStrict (calls : List Call) (store : Variables) (strict : Bool) :
    (capability.converse calls (store.withStrict strict)).2 = (capability.converse calls store).2.withStrict strict := by
  induction calls generalizing store with
  | nil => rfl
  | cons call rest ih =>
    simp only [Capability.converse, state_withStrict]
    exact ih (capability.invoke call store).2

end Variables

def Session.withStrict (strict : Bool) (session : Session) : Session :=
  { session with store := session.store.withStrict strict }

/-- The exchange in which a token is not taken apart because its name is not bound. -/
def Exchange.Refused (exchange : Exchange) : Prop :=
  exchange.call.target = Variables.capability.target ∧
    ∃ name, exchange.call.Resolves name ∧ exchange.answer = .error (.unknownVariable name)

namespace Session

variable {m : Type → Type} [Monad m] [LawfulMonad m] {session : Session} {call : Call}

theorem invokeCapability?_withStrict
    (spared : call.target = Variables.capability.target → ∀ name, ¬session.store.Lacks call name) (strict : Bool) :
    (session.withStrict strict).invokeCapability? call =
      (session.invokeCapability? call).map fun (answer, after) => (answer, after.withStrict strict) := by
  unfold invokeCapability?
  by_cases addressed : call.target = Variables.capability.target
  · rw [if_pos addressed, if_pos addressed]
    simp only [withStrict, Variables.answer_withStrict (spared addressed), Variables.state_withStrict, Option.map_some]
  · rw [if_neg addressed, if_neg addressed]
    split
    · rfl
    · split <;> rfl

theorem invoke_withStrict (provider : Option (TokenSource m))
    (spared : call.target = Variables.capability.target → ∀ name, ¬session.store.Lacks call name) (strict : Bool) :
    (session.withStrict strict).invoke provider call =
      (fun (answer, after) => (answer, after.withStrict strict)) <$> session.invoke provider call := by
  rw [invoke, invoke, invokeCapability?_withStrict spared]
  cases session.invokeCapability? call with
  | some answered => simp
  | none =>
    simp only [Option.map_none, withStrict]
    cases session.queries.find? (·.target = call.target) with
    | some query => simp
    | none => simp

variable {σ : Type} {provider : Option (TokenSource (StateM σ))} {answer : Answer} {after : Session} {world later : σ}

theorem store_invoke (invoked : (session.invoke provider call).run world = ((answer, after), later)) :
    if call.target = Variables.capability.target
    then Variables.capability.invoke call session.store = (answer, after.store)
    else after.store = session.store := Faculty.store.invoke invoked

theorem strict_invoke (invoked : (session.invoke provider call).run world = ((answer, after), later)) :
    after.store.strict = session.store.strict := by
  have own := store_invoke invoked
  split at own
  · have kept := Variables.state_withStrict call session.store session.store.strict
    have same : session.store.withStrict session.store.strict = session.store := rfl
    rw [same, own] at kept
    calc
      after.store.strict = (after.store.withStrict session.store.strict).strict := congrArg Variables.strict kept
      _ = session.store.strict := rfl
  · exact congrArg Variables.strict own

/-- A strict store that does not refuse a call has the name that the call is about. -/
theorem not_lacks_of_answer (strictly : session.store.strict = true)
    (invoked : (session.invoke provider call).run world = ((answer, after), later))
    (spared : ¬Exchange.Refused ⟨call, answer⟩) :
    call.target = Variables.capability.target → ∀ name, ¬session.store.Lacks call name := by
  intro addressed name lacks
  apply spared
  refine ⟨addressed, name, lacks.1, ?_⟩
  have own := store_invoke invoked
  rw [if_pos addressed] at own
  have told := Variables.answer_of_lacks lacks
  rw [strictly, if_pos rfl, own] at told
  exact told

end Session

def RunSettings.withStrict (strict : Bool) (settings : RunSettings) : RunSettings :=
  { settings with strictDeref := strict }

namespace Script

/-- The interpreter leaves it to the store to be strict. -/
def IgnoresStrict (interpreter : Interpreter) : Prop :=
  ∀ settings strict, interpreter (settings.withStrict strict) = interpreter settings

theorem interpret_ignoresStrict : IgnoresStrict interpret := fun _ _ => rfl

theorem error?_withStrict (settings : RunSettings) (strict : Bool) (lastFailure : Option CallError) (ending : Ending) :
    ending.error? (settings.withStrict strict) lastFailure = ending.error? settings lastFailure := by
  cases ending <;> rfl

section Runs

variable {σ : Type} {provider : Option (TokenSource (StateM σ))} {settings : RunSettings} {session after : Session}
  {world later : σ} {dialogue : List Exchange} {result : Except ScriptError Unit}

/-- Each call that a strict store does not refuse leads to the same place in both runs. -/
theorem Behaviour.converse_withStrict {behaviour : Behaviour} {lastFailure : Option CallError}
    (strictly : session.store.strict = true)
    (ran : (behaviour.converse settings provider lastFailure session).run world = ((dialogue, result, after), later))
    (spared : ∀ exchange ∈ dialogue, ¬exchange.Refused) (strict : Bool) :
    (behaviour.converse (settings.withStrict strict) provider lastFailure (session.withStrict strict)).run world =
      ((dialogue, result, after.withStrict strict), later) := by
  induction behaviour generalizing lastFailure session world dialogue with
  | ended ending =>
    cases ran
    rw [converse, error?_withStrict]
    rfl
  | call request resume ih =>
    obtain ⟨⟨answer, middle⟩, between, invoked, resumed⟩ := run_bind_eq ran
    obtain ⟨⟨rest, finished⟩, last, spoken, ended⟩ := run_bind_eq resumed
    cases ended
    obtain ⟨first, others⟩ := List.forall_mem_cons.mp spared
    have has := Session.not_lacks_of_answer strictly invoked first
    have again := run_map_of (fun (answer, after) => (answer, Session.withStrict strict after)) invoked
    rw [← Session.invoke_withStrict provider has] at again
    have goesOn := ih answer ((Session.strict_invoke invoked).trans strictly) spoken others
    rw [converse, run_bind_of _ again, run_bind_of _ goesOn]
    rfl

theorem converse_withStrict {interpreter : Interpreter} (ignores : IgnoresStrict interpreter) {source : String}
    (strictly : session.store.strict = true)
    (ran : (converse interpreter settings provider source session).run world = ((dialogue, result, after), later))
    (spared : ∀ exchange ∈ dialogue, ¬exchange.Refused) (strict : Bool) :
    (converse interpreter (settings.withStrict strict) provider source (session.withStrict strict)).run world =
      ((dialogue, result, after.withStrict strict), later) := by
  have queries : (session.withStrict strict).queries = session.queries := rfl
  have globals : (session.withStrict strict).globals = session.globals := rfl
  unfold converse at ran ⊢
  rw [queries, globals, ignores]
  cases checked : checkTargets [] (session.queries.map Query.target) with
  | error error =>
    rw [checked] at ran
    cases ran
    rfl
  | ok _ =>
    rw [checked] at ran
    by_cases blank : Text.isBlankText source = true
    · simp only [blank, if_true] at ran ⊢
      cases ran
      rfl
    · simp only [blank, Bool.false_eq_true, if_false] at ran ⊢
      cases started : interpreter settings session.globals source with
      | runs behaviour =>
        rw [started] at ran
        exact Behaviour.converse_withStrict strictly ran spared strict
      | _ =>
        rw [started] at ran
        cases ran
        rfl

end Runs

/-- Whatever was called before, a strict store and one that is not hold and have pending the same. They answer
every call alike but one: a token is taken apart whose name they lack, which the strict store refuses and the
other resolves to the name or to no value. So a script that is refused nothing in a strict store says the same,
ends the same and leaves the same if the store is not strict. -/
theorem strictness_only_adds_failures :
    (∀ (snapshot : Values) (calls : List Call),
      let strictly := (Variables.capability.converse calls { current := snapshot, strict := true }).2
      let laxly := (Variables.capability.converse calls { current := snapshot, strict := false }).2
      strictly.current = laxly.current ∧ strictly.pending = laxly.pending ∧ ∀ call,
        (∀ name, laxly.Lacks call name →
          (Variables.capability.invoke call strictly).1 = .error (.unknownVariable name) ∧
          (Variables.capability.invoke call laxly).1 = .ok (call.unbound name)) ∧
        ((∀ name, ¬laxly.Lacks call name) →
          (Variables.capability.invoke call strictly).1 = (Variables.capability.invoke call laxly).1)) ∧
    ∀ {σ : Type} (interpreter : Interpreter) (settings : RunSettings) (provider : Option (TokenSource (StateM σ)))
      (source : String) (session : Session), IgnoresStrict interpreter →
      (∀ strict, runSource interpreter (settings.withStrict strict) provider source (session.withStrict strict) =
        Prod.snd <$> converse interpreter (settings.withStrict strict) provider source (session.withStrict strict)) ∧
      ∀ world dialogue result after later,
        (converse interpreter (settings.withStrict true) provider source (session.withStrict true)).run world =
          ((dialogue, result, after), later) →
        (∀ exchange ∈ dialogue, ¬exchange.Refused) →
        (converse interpreter (settings.withStrict false) provider source (session.withStrict false)).run world =
          ((dialogue, result, after.withStrict false), later) ∧
        (after.withStrict false).outcome = after.outcome := by
  refine ⟨?_, ?_⟩
  · intro snapshot calls strictly laxly
    have same : strictly = laxly.withStrict true := Variables.converse_withStrict calls { current := snapshot } true
    have lax : laxly = laxly.withStrict false := Variables.converse_withStrict calls { current := snapshot } false
    have free : laxly.strict = false := by
      rw [lax]
      rfl
    rw [same]
    refine ⟨rfl, rfl, ?_⟩
    intro call
    refine ⟨?_, ?_⟩
    · intro name lacks
      have strictLacks : (laxly.withStrict true).Lacks call name := lacks
      refine ⟨Variables.answer_of_lacks strictLacks, ?_⟩
      rw [Variables.answer_of_lacks lacks, free]
      rfl
    · intro spared
      exact Variables.answer_withStrict spared true
  · intro σ interpreter settings provider source session ignores
    refine ⟨fun _ => runSource_eq_converse .., ?_⟩
    intro world dialogue result after later ran spared
    exact ⟨converse_withStrict ignores rfl ran spared false, rfl⟩

/-- Takes the token of a name apart that it wrote before, and then a text that is no token. -/
def resolvingScript : String :=
  "variables.write('size', true); variables.derefName('\x7b\x7b.size\x7d\x7d'); " ++
  "variables.derefValue(variables.ref('size')); try \x7b variables.derefName('size'); \x7d catch (e) \x7b \x7d"

def resolvingRun (strict : Bool) : StateM Unit (List Exchange × Except ScriptError Unit × Session) :=
  converse interpret (RunSettings.withStrict strict {}) none resolvingScript
    ((Session.start .empty .empty .empty true).withStrict strict)

set_option maxRecDepth 100000 in
theorem written_name_resolves_alike : ∃ dialogue result after,
    (resolvingRun true).run () = ((dialogue, result, after), ()) ∧ dialogue.length = 5 ∧
    (resolvingRun false).run () = ((dialogue, result, after.withStrict false), ()) := by
  have known : (fun dialogue => (failuresOf dialogue, dialogue.length)) ((resolvingRun true).run ()).1.1 =
      ([.reference (.missingFront "size")], 5) := by decide +kernel
  rcases ran : (resolvingRun true).run () with ⟨⟨dialogue, result, after⟩, world⟩
  rw [ran] at known
  obtain ⟨failures, length⟩ := Prod.mk.inj known
  have spared : ∀ exchange ∈ dialogue, ¬exchange.Refused := by
    intro exchange member ⟨_, name, _, refused⟩
    have failed : exchange.failure? = some (.unknownVariable name) := by rw [Exchange.failure?, refused]
    have found : CallError.unknownVariable name ∈ failuresOf dialogue := List.mem_filterMap.mpr ⟨exchange, member, failed⟩
    rw [failures, List.mem_singleton] at found
    cases found
  have alike := (strictness_only_adds_failures.2 interpret {} none resolvingScript
    (Session.start .empty .empty .empty true) interpret_ignoresStrict).2 () dialogue result after world ran spared
  exact ⟨dialogue, result, after, rfl, length, alike.1⟩

end Script
end ScriptedTask
