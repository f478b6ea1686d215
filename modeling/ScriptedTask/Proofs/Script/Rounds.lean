import ScriptedTask.Proofs.Script.Inward
import ScriptedTask.Script.Runner

/-! Scripts up to the next call that their surroundings answer, and on from there. -/

namespace ScriptedTask.Script

open Text (Units)

namespace Comp

variable {α β γ : Type}

theorem andThen_assoc (comp : Comp α) (first : Heap → Except Value α → Comp β) (second : Heap → Except Value β → Comp γ) :
    (comp.andThen first).andThen second = comp.andThen fun heap result => (first heap result).andThen second := by
  induction comp with
  | done heap result => rfl
  | stopped => rfl
  | ask heap job resume ih => simp only [andThen, ih]
  | outside heap call resume ih => simp only [andThen, ih]

theorem andThen_done (comp : Comp α) : comp.andThen .done = comp := by
  induction comp with
  | done heap result => rfl
  | stopped => rfl
  | ask heap job resume ih => simp only [andThen, ih]
  | outside heap call resume ih => simp only [andThen, ih]

end Comp

namespace Eval

theorem bind_eq_andThen {α β : Type} (comp : Eval α) (next : α → Eval β) (heap : Heap) :
    (comp >>= next) heap = (comp heap).andThen fun heap result =>
      match result with
      | .ok value => next value heap
      | .error thrown => .done heap (.error thrown) := by
  change Eval.bind comp next heap = _
  rw [Eval.bind]
  split
  next same => rw [same]; rfl
  next same => rw [same]; rfl
  · rfl

theorem bind_assoc_eval {α β γ : Type} (comp : Eval α) (first : α → Eval β) (second : β → Eval γ) :
    comp >>= first >>= second = comp >>= fun value => first value >>= second := by
  funext heap
  rw [bind_eq_andThen, bind_eq_andThen, Comp.andThen_assoc, bind_eq_andThen]
  congr
  funext heap result
  cases result with
  | ok value => exact (bind_eq_andThen _ _ _).symm
  | error thrown => rfl

theorem id_map_eval {α : Type} (comp : Eval α) : id <$> comp = comp := by
  funext heap
  change (comp >>= Pure.pure) heap = comp heap
  rw [bind_eq_andThen]
  conv_rhs => rw [← (comp heap).andThen_done]
  congr
  funext heap result
  cases result <;> rfl

instance : LawfulMonad Eval := LawfulMonad.mk' Eval id_map_eval (fun _ _ => rfl) bind_assoc_eval

section Parts

variable {α β : Type} {comp : Eval α} {heap middle later : Heap} {value : α} {job : Job} {request : Call}

theorem Costs.done {work room : Nat} {post : α → Heap → Prop} (costs : Costs comp heap work room post)
    (affords : heap.Affords work room) :
    ∃ value later, comp heap = .done later (.ok value) ∧ heap.Spends later work room ∧ post value later := by
  rw [Costs] at costs
  split at costs
  next later value done => exact ⟨value, later, done, costs⟩
  · exact absurd affords costs
  · exact absurd affords costs
  · exact costs.elim
  · exact costs.elim

theorem bind_of_done (done : comp heap = .done later (.ok value)) (next : α → Eval β) :
    (comp >>= next) heap = next value later := by
  change Eval.bind comp next heap = _
  rw [Eval.bind, done]

theorem bind_congr_at {other : Eval α} (same : comp heap = other later) (next : α → Eval β) :
    (comp >>= next) heap = (other >>= next) later := by
  rw [bind_eq_andThen, same, bind_eq_andThen]

theorem attempt_congr_at {other : Eval α} (same : comp heap = other later) : attempt comp heap = attempt other later :=
  congrArg (Comp.andThen · _) same

/-- The computation leaves a job to whoever runs it, and goes on with what that comes to. -/
def Asks (comp : Eval α) (heap : Heap) (job : Job) (later : Heap) (next : Completion → Eval α) : Prop :=
  ∃ resume, comp heap = .ask later job resume ∧ ∀ heap completion, resume heap (.ok completion) = next completion heap

/-- The computation asks its surroundings, and goes on with their answer. -/
def Calls (comp : Eval α) (heap : Heap) (request : Call) (later : Heap) (next : Option Json → Eval α) : Prop :=
  ∃ resume, comp heap = .outside later request resume ∧ ∀ heap answer, resume heap (.ok answer) = next answer heap

theorem asks_ask (job : Job) (heap : Heap) : Asks (ask job) heap job heap pure := ⟨_, rfl, fun _ _ => rfl⟩

theorem calls_outside (request : Call) (heap : Heap) : Calls (outside request) heap request heap pure :=
  ⟨_, rfl, fun _ _ => rfl⟩

theorem Asks.bind {next : Completion → Eval α} (asks : Asks comp heap job later next) (rest : α → Eval β) :
    Asks (comp >>= rest) heap job later fun completion => next completion >>= rest := by
  obtain ⟨resume, asked, resumes⟩ := asks
  refine ⟨_, by rw [bind_eq_andThen, asked]; rfl, fun heap completion => ?_⟩
  exact (congrArg (Comp.andThen · _) (resumes heap completion)).trans (bind_eq_andThen _ _ _).symm

theorem Calls.bind {next : Option Json → Eval α} (calls : Calls comp heap request later next) (rest : α → Eval β) :
    Calls (comp >>= rest) heap request later fun answer => next answer >>= rest := by
  obtain ⟨resume, asked, resumes⟩ := calls
  refine ⟨_, by rw [bind_eq_andThen, asked]; rfl, fun heap answer => ?_⟩
  exact (congrArg (Comp.andThen · _) (resumes heap answer)).trans (bind_eq_andThen _ _ _).symm

theorem Asks.after {rest : α → Eval β} {next : Completion → Eval β} (done : comp heap = .done middle (.ok value))
    (asks : Asks (rest value) middle job later next) : Asks (comp >>= rest) heap job later next := by
  rw [Asks, bind_of_done done]
  exact asks

theorem Calls.after {rest : α → Eval β} {next : Option Json → Eval β} (done : comp heap = .done middle (.ok value))
    (calls : Calls (rest value) middle request later next) : Calls (comp >>= rest) heap request later next := by
  rw [Calls, bind_of_done done]
  exact calls

theorem Asks.attempt {next : Completion → Eval α} (asks : Asks comp heap job later next) :
    Asks (attempt comp) heap job later fun completion => attempt (next completion) := by
  obtain ⟨resume, asked, resumes⟩ := asks
  refine ⟨_, congrArg (Comp.andThen · _) asked, fun heap completion => ?_⟩
  exact congrArg (Comp.andThen · _) (resumes heap completion)

theorem asks_call {id : Nat} (callable : (heap.object id).isFunction = true) (this : Value) (arguments : List Value) :
    Asks (call (.object id) this arguments) heap (.call id this arguments) heap fun completion =>
      pure (returnedValue completion) := by
  have looked : look (fun heap => (heap.object id).isFunction) heap = .done heap (.ok true) := by
    rw [look, callable]
  exact Asks.after looked ((asks_ask _ _).bind _)

end Parts

theorem isFunction_host {object : Object} {target method : String} (host : object.kind = .host target method) :
    object.isFunction = true := by
  rw [Object.isFunction, host]

/-- What a script has of an answer. -/
def answered : Option Json → Eval Value
  | some value => ofJson value
  | none => pure .undefined

variable {heap sent back : Heap} {function : Nat} {values : List Value}
  {target method : String} {arguments : List (Option Json)}

/-- A function of the surroundings passes its arguments on, and comes to the answer. -/
theorem calls_runCall (e : Evaluator) (this : Value) (host : (heap.object function).kind = .host target method)
    (sends : toJsonAll values heap = .done sent (.ok arguments)) :
    ∃ next, Calls (runCall e function this values) heap ⟨target, method, arguments⟩ sent next ∧
      ∀ answer heap back value, answered answer heap = .done back (.ok value) →
        next answer heap = .done back (.ok (.ends (.returned value))) := by
  have runs : runCall e function this values heap = (do return Turn.ends (← callOutside target method values)) heap := by
    have looked : look (fun heap => heap.object function) heap = .done heap (.ok (heap.object function)) := rfl
    rw [runCall, bind_of_done looked, host]
  have calls : Calls (do return Turn.ends (← callOutside target method values)) heap ⟨target, method, arguments⟩ sent _ :=
    (Calls.after sends ((calls_outside ⟨target, method, arguments⟩ sent).bind _)).bind _
  rw [Calls, ← runs] at calls
  refine ⟨_, calls, fun answer heap back value found => ?_⟩
  cases answer with
  | none =>
    cases found
    rfl
  | some json =>
    have loaded : ofJson json heap = .done back (.ok value) := found
    have whole : ((ofJson json >>= fun found => Pure.pure (Completion.returned found)) >>= fun completion =>
        Pure.pure (Turn.ends completion)) heap = .done back (.ok (.ends (.returned value))) := by
      rw [bind_of_done (bind_of_done loaded _)]
      rfl
    exact whole

end Eval

namespace Machine

open Eval

variable {m : Type → Type} [Monad m] [LawfulMonad m] {e : Evaluator} {comp : Eval Finish} {heap middle sent back : Heap}
  {function : Nat} {this value : Value} {values : List Value} {target method : String} {arguments : List (Option Json)}
  {answer : Option Json} {session later : Session} {next : Completion → Eval Finish}

section Steps

variable {fuel : Nat} {raised : List Nat} {running goesOn : Running} {request : Call}
  {resume : Heap → Except Value (Option Json) → Running}

omit [Monad m] [LawfulMonad m] in
theorem drive_next (steps : step e running = .next goesOn) :
    drive e (fuel + 1) raised running = drive e fuel raised goesOn := by
  rw [drive, steps]

/-- A call that is answered costs a step. -/
theorem perform_outside {settings : RunSettings} {provider : Option (TokenSource m)} {last : Option CallError}
    (steps : step e running = .outside sent request resume)
    (invoked : session.invoke provider request = Pure.pure (.ok answer, later)) :
    (drive e (fuel + 1) raised running).perform settings provider last session =
      (drive e fuel raised (resume sent (.ok answer))).perform settings provider last later := by
  rw [drive, steps]
  simp only [Behaviour.perform, invoked, pure_bind]
  rfl

end Steps

/-- From one call of the surroundings to the next. -/
theorem perform_round (settings : RunSettings) (provider : Option (TokenSource m)) (last : Option CallError) (fuel : Nat)
    (raised : List Nat) (asks : Asks comp heap (.call function this values) middle next)
    (host : (middle.object function).kind = .host target method)
    (sends : toJsonAll values middle = .done sent (.ok arguments))
    (invoked : session.invoke provider ⟨target, method, arguments⟩ = Pure.pure (.ok answer, later))
    (returns : answered answer sent = .done back (.ok value)) :
    (drive e (fuel + 3) raised (.script (comp heap))).perform settings provider last session =
      (drive e fuel raised (.script (next (.returned value) back))).perform settings provider last later := by
  obtain ⟨resume, asked, resumes⟩ := asks
  obtain ⟨answers, ⟨goOn, called, goesOn⟩, comes⟩ := calls_runCall e this host sends
  have ends := (goesOn sent answer).trans (comes answer sent back value returns)
  have outside : step e (.job (runJob e (.call function this values) middle) [] resume) =
      .outside sent ⟨target, method, arguments⟩ fun heap reply => .job (goOn heap reply) [] resume := by
    rw [show runJob e (.call function this values) middle = _ from called]
    rfl
  have replies : step e (.job (goOn sent (.ok answer)) [] resume) = .next (.script (next (.returned value) back)) := by
    rw [ends, ← resumes]
    rfl
  rw [asked, drive_next rfl, perform_outside outside invoked, drive_next replies]

end Machine

end ScriptedTask.Script
