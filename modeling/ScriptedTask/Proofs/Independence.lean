import ScriptedTask.Proofs.Outputs
import ScriptedTask.Proofs.Variables

/-! Calls to the capabilities of one session, in any order. A call that fails leaves no trace at all, one
that succeeds leaves its entry in the capability that it is made to; so what a capability answers and
holds in the end is settled by its own state and its own entries, whatever is called besides. -/

namespace ScriptedTask

/-- The capability that a call is made to. The target that the call itself names shows only in messages. -/
inductive Addressee where
  | store
  | inputs
  | outputs
deriving DecidableEq

def Addressee.ofTarget? (target : String) : Option Addressee :=
  if target = Variables.capability.target then some .store
  else if target = VisibleInputs.capability.target then some .inputs
  else if target = Outputs.capability.target then some .outputs
  else none

abbrev Request := Addressee × Call

namespace Session

def dispatch (session : Session) (addressee : Addressee) (call : Call) : Answer × Session :=
  match addressee with
  | .store =>
    let (answer, store) := Variables.capability.invoke call session.store
    (answer, { session with store })
  | .inputs =>
    let (answer, inputs) := VisibleInputs.capability.invoke call session.inputs
    (answer, { session with inputs })
  | .outputs =>
    let (answer, outputs) := Outputs.capability.invoke call session.outputs
    (answer, { session with outputs })

theorem invokeCapability?_eq (session : Session) (call : Call) :
    session.invokeCapability? call = (Addressee.ofTarget? call.target).map (session.dispatch · call) := by
  simp only [invokeCapability?, Addressee.ofTarget?]
  split
  · rfl
  · split
    · rfl
    · split <;> rfl

def dispatchAll (session : Session) : List Request → List (Addressee × Exchange) × Session
  | [] => ([], session)
  | (addressee, call) :: rest =>
    let (answer, next) := session.dispatch addressee call
    let (others, last) := next.dispatchAll rest
    ((addressee, ⟨call, answer⟩) :: others, last)

def said (session : Session) (requests : List Request) : List (Addressee × Exchange) := (session.dispatchAll requests).1

def after (session : Session) (requests : List Request) : Session := (session.dispatchAll requests).2

theorem after_append (session : Session) (first second : List Request) :
    session.after (first ++ second) = (session.after first).after second := by
  induction first generalizing session with
  | nil => rfl
  | cons request rest ih => exact ih (session.dispatch request.1 request.2).2

theorem said_append (session : Session) (first second : List Request) :
    session.said (first ++ second) = session.said first ++ (session.after first).said second := by
  induction first generalizing session with
  | nil => rfl
  | cons request rest ih => exact congrArg (_ :: ·) (ih (session.dispatch request.1 request.2).2)

end Session

def exchangesWith (addressee : Addressee) (said : List (Addressee × Exchange)) : List Exchange :=
  (said.filter (·.1 = addressee)).map Prod.snd

/-- The variables that calls wrote, in order. -/
def writesAmong (said : List (Addressee × Exchange)) : List (String × Json) :=
  Ledger.store.entries (exchangesWith .store said)

/-- The outputs that calls set, in order. -/
def setsAmong (said : List (Addressee × Exchange)) : List (String × Json) :=
  Ledger.outputs.entries (exchangesWith .outputs said)

/-- A capability as the part of a session that its addressee stands for. -/
structure Compartment (τ : Type) where
  ledger : Ledger τ
  addressee : Addressee
  state : Session → τ
  put : Session → τ → Session
  state_put : ∀ session next, state (put session next) = next
  put_state : ∀ session, put session (state session) = session
  own : ∀ session call, session.dispatch addressee call =
    let (answer, next) := ledger.capability.invoke call (state session)
    (answer, put session next)
  apart : ∀ session other call, other ≠ addressee → state (session.dispatch other call).2 = state session

namespace Compartment

def store : Compartment Variables where
  ledger := Ledger.store
  addressee := .store
  state := Session.store
  put session store := { session with store }
  state_put _ _ := rfl
  put_state _ := rfl
  own _ _ := rfl
  apart _ other _ differ := by cases other <;> first | rfl | exact absurd rfl differ

def inputs : Compartment VisibleInputs where
  ledger := Ledger.inputs
  addressee := .inputs
  state := Session.inputs
  put session inputs := { session with inputs }
  state_put _ _ := rfl
  put_state _ := rfl
  own _ _ := rfl
  apart _ other _ differ := by cases other <;> first | rfl | exact absurd rfl differ

def outputs : Compartment Outputs where
  ledger := Ledger.outputs
  addressee := .outputs
  state := Session.outputs
  put session outputs := { session with outputs }
  state_put _ _ := rfl
  put_state _ := rfl
  own _ _ := rfl
  apart _ other _ differ := by cases other <;> first | rfl | exact absurd rfl differ

variable {τ : Type} (part : Compartment τ)

theorem invoke_state (session : Session) (call : Call) :
    part.ledger.capability.invoke call (part.state session) =
      ((session.dispatch part.addressee call).1, part.state (session.dispatch part.addressee call).2) := by
  rw [part.own]
  exact Prod.ext rfl (part.state_put session _).symm

/-- A call that fails leaves the whole session as it was. -/
theorem atomic {session after : Session} {call : Call} {problem : CallError}
    (failed : session.dispatch part.addressee call = (.error problem, after)) : after = session := by
  have invoked := part.invoke_state session call
  rw [part.own] at failed
  rcases ran : part.ledger.capability.invoke call (part.state session) with ⟨answer, next⟩
  rw [ran] at failed
  cases failed
  rw [part.ledger.state_of_error ran, part.put_state]

def entriesAmong (said : List (Addressee × Exchange)) : List (String × Json) :=
  part.ledger.entries (exchangesWith part.addressee said)

theorem inputs_entriesAmong (said : List (Addressee × Exchange)) : Compartment.inputs.entriesAmong said = [] :=
  Ledger.inputs_entries _

theorem state_dispatch (session : Session) (addressee : Addressee) (call : Call) :
    part.state (session.dispatch addressee call).2 = part.ledger.enterAll (part.state session)
      (part.entriesAmong [(addressee, ⟨call, (session.dispatch addressee call).1⟩)]) := by
  by_cases same : addressee = part.addressee
  · subst same
    rw [part.ledger.invoke_state (part.invoke_state session call)]
    simp only [entriesAmong, exchangesWith, List.filter_cons_of_pos, decide_true, List.filter_nil, List.map_cons,
      List.map_nil, Ledger.entries, List.filterMap_cons, List.filterMap_nil]
    cases part.ledger.entryOf? ⟨call, (session.dispatch part.addressee call).1⟩ <;> rfl
  · rw [part.apart session addressee call same]
    simp [entriesAmong, exchangesWith, same, Ledger.entries, Ledger.enterAll]

theorem entriesAmong_cons (first : Addressee × Exchange) (rest : List (Addressee × Exchange)) :
    part.entriesAmong (first :: rest) = part.entriesAmong [first] ++ part.entriesAmong rest := by
  simp only [entriesAmong, exchangesWith, Ledger.entries, ← List.filterMap_append, ← List.map_append,
    ← List.filter_append]
  rfl

/-- A run leaves in the part the entries of its own calls that succeeded, in order, and nothing else. -/
theorem state_after (session : Session) (requests : List Request) :
    part.state (session.after requests) =
      part.ledger.enterAll (part.state session) (part.entriesAmong (session.said requests)) := by
  induction requests generalizing session with
  | nil => rfl
  | cons request rest ih =>
    obtain ⟨addressee, call⟩ := request
    have later := ih (session.dispatch addressee call).2
    rw [state_dispatch, ← Ledger.enterAll_append, ← entriesAmong_cons] at later
    exact later

/-- After a run the part answers as it does after the entries of the run alone. -/
theorem answer_after (session : Session) (requests : List Request) (call : Call) :
    ((session.after requests).dispatch part.addressee call).1 =
      (part.ledger.capability.invoke call
        (part.ledger.enterAll (part.state session) (part.entriesAmong (session.said requests)))).1 := by
  rw [← part.state_after, part.invoke_state]

/-- Two sessions that agree in the part get the same answers from it, whatever they hold besides. -/
theorem said_congr {left right : Session} (same : part.state left = part.state right) (requests : List Request) :
    exchangesWith part.addressee (left.said requests) = exchangesWith part.addressee (right.said requests) := by
  induction requests generalizing left right with
  | nil => rfl
  | cons request rest ih =>
    obtain ⟨addressee, call⟩ := request
    by_cases own : addressee = part.addressee
    · subst own
      have first := part.invoke_state left call
      rw [same, part.invoke_state right call, Prod.mk.injEq] at first
      have others := ih first.2.symm
      simp only [exchangesWith, Session.said, Session.dispatchAll, List.filter_cons_of_pos, decide_true,
        List.map_cons, first.1] at others ⊢
      rw [others]
    · have kept : part.state (left.dispatch addressee call).2 = part.state (right.dispatch addressee call).2 := by
        rw [part.apart left addressee call own, part.apart right addressee call own, same]
      have others := ih kept
      simp only [exchangesWith, Session.said, Session.dispatchAll] at others ⊢
      rw [List.filter_cons_of_neg (by simpa using own), List.filter_cons_of_neg (by simpa using own), others]

/-- Calls that leave no entry in the part may be put in or left out: the part answers all later calls alike
and comes to the same state. -/
theorem unmoved (session : Session) (before extra later : List Request)
    (silent : part.entriesAmong ((session.after before).said extra) = []) :
    exchangesWith part.addressee ((session.after (before ++ extra)).said later) =
        exchangesWith part.addressee ((session.after before).said later) ∧
      part.state (session.after (before ++ extra ++ later)) = part.state (session.after (before ++ later)) := by
  have same : part.state (session.after (before ++ extra)) = part.state (session.after before) := by
    rw [session.after_append, part.state_after, silent]
    rfl
  have answered := part.said_congr same later
  refine ⟨answered, ?_⟩
  rw [session.after_append (before ++ extra), session.after_append before later, part.state_after,
    part.state_after (session.after before), entriesAmong, entriesAmong, answered, same]

end Compartment

namespace Variables

/-- The store as if nothing were pending. -/
def fresh (store : Variables) : Variables := { current := store.current, strict := store.strict }

theorem writeAll_above (earlier : Values) (store : Variables) (writes : List (String × Json)) :
    (store.above earlier).writeAll writes = (store.writeAll writes).above earlier := by
  induction writes generalizing store with
  | nil => rfl
  | cons pair rest ih =>
    have first : (store.above earlier).write pair.1 pair.2 = (store.write pair.1 pair.2).above earlier := by
      simp only [above, write, Ascending.overlay_insert]
    rw [writeAll, writeAll, List.foldl_cons, List.foldl_cons, first]
    exact ih (store.write pair.1 pair.2)

/-- What was pending at first shows in no answer. -/
theorem answer_fresh (store : Variables) (writes : List (String × Json)) (call : Call) :
    (capability.invoke call (store.writeAll writes)).1 = (capability.invoke call (store.fresh.writeAll writes)).1 := by
  have laid : store = store.fresh.above store.pending := rfl
  rw [laid, writeAll_above, Capability.invoke_change (commutes_above store.pending)]
  rfl

end Variables

/-- What calls to the capabilities of a session do, in any order and number. -/
structure Session.Apart (session : Session) : Prop where
  /-- Scripts reach the capabilities in this way. -/
  reached : ∀ call, session.invokeCapability? call = (Addressee.ofTarget? call.target).map (session.dispatch · call)
  /-- What was said before is settled when a run goes on. -/
  inTurn : ∀ first second, session.said (first ++ second) = session.said first ++ (session.after first).said second
  /-- A call that fails leaves everything as it was. -/
  atomic : ∀ addressee call problem after, session.dispatch addressee call = (.error problem, after) → after = session
  inputs : ∀ requests, (session.after requests).inputs = session.inputs
  store : ∀ requests, (session.after requests).store = session.store.writeAll (writesAmong (session.said requests))
  outputs : ∀ requests,
    (session.after requests).outputs = session.outputs.setAll (setsAmong (session.said requests))
  /-- The variables answer from the first snapshot and the writes that succeeded. -/
  storeAnswers : ∀ requests call, ((session.after requests).dispatch .store call).1 =
    (Variables.capability.invoke call (session.store.fresh.writeAll (writesAmong (session.said requests)))).1
  inputsAnswers : ∀ requests call, ((session.after requests).dispatch .inputs call).1 =
    (VisibleInputs.capability.invoke call session.inputs).1
  outputsAnswers : ∀ requests call, ((session.after requests).dispatch .outputs call).1 =
    (Outputs.capability.invoke call (session.outputs.setAll (setsAmong (session.said requests)))).1
  /-- Calls that write no variable change neither what variables answer later nor the updates. -/
  besideStore : ∀ before extra later, writesAmong ((session.after before).said extra) = [] →
    exchangesWith .store ((session.after (before ++ extra)).said later) =
        exchangesWith .store ((session.after before).said later) ∧
      (session.after (before ++ extra ++ later)).outcome.updates = (session.after (before ++ later)).outcome.updates
  besideOutputs : ∀ before extra later, setsAmong ((session.after before).said extra) = [] →
    exchangesWith .outputs ((session.after (before ++ extra)).said later) =
        exchangesWith .outputs ((session.after before).said later) ∧
      (session.after (before ++ extra ++ later)).outcome.outputs = (session.after (before ++ later)).outcome.outputs
  besideInputs : ∀ before extra later,
    exchangesWith .inputs ((session.after (before ++ extra)).said later) =
      exchangesWith .inputs ((session.after before).said later)

/-- Calls to capabilities are atomic, and none of them shows in what another capability answers or holds. -/
theorem capabilities_are_independent (session : Session) : session.Apart where
  reached := session.invokeCapability?_eq
  inTurn := session.said_append
  atomic := by
    intro addressee call problem after failed
    cases addressee with
    | store => exact Compartment.store.atomic failed
    | inputs => exact Compartment.inputs.atomic failed
    | outputs => exact Compartment.outputs.atomic failed
  inputs := by
    intro requests
    have kept := Compartment.inputs.state_after session requests
    rw [Compartment.inputs_entriesAmong] at kept
    exact kept
  store := Compartment.store.state_after session
  outputs := Compartment.outputs.state_after session
  storeAnswers := by
    intro requests call
    exact (Compartment.store.answer_after session requests call).trans (Variables.answer_fresh session.store _ call)
  inputsAnswers := by
    intro requests call
    have answered := Compartment.inputs.answer_after session requests call
    rw [Compartment.inputs_entriesAmong] at answered
    exact answered
  outputsAnswers := Compartment.outputs.answer_after session
  besideStore := by
    intro before extra later silent
    obtain ⟨answered, same⟩ := Compartment.store.unmoved session before extra later silent
    exact ⟨answered, congrArg Variables.pending same⟩
  besideOutputs := by
    intro before extra later silent
    obtain ⟨answered, same⟩ := Compartment.outputs.unmoved session before extra later silent
    exact ⟨answered, congrArg Outputs.values same⟩
  besideInputs := by
    intro before extra later
    exact (Compartment.inputs.unmoved session before extra later (Compartment.inputs_entriesAmong _)).1

end ScriptedTask
