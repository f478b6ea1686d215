import ScriptedTask.Proofs.Dialogue
import ScriptedTask.Proofs.Running
import ScriptedTask.Worker.Report

/-! Tasks by themselves. Between loading variables and storing changes a task has nothing to do with
the world outside, so what becomes of it until then is settled by the variables it found. -/

namespace ScriptedTask

/-- The program does nothing but answer. -/
def Secluded {m : Type → Type} [Monad m] {α : Type} (program : m α) : Prop := ∃ value, program = pure value

section Programs

variable {m : Type → Type} [Monad m] {α β ε : Type}

theorem secluded_pure (value : α) : Secluded (pure value : m α) := ⟨value, rfl⟩

variable [LawfulMonad m]

theorem Secluded.bind {first : m α} {next : α → m β} (secluded : Secluded first)
    (rest : ∀ value, Secluded (next value)) : Secluded (first >>= next) := by
  obtain ⟨value, rfl⟩ := secluded
  rw [pure_bind]
  exact rest value

/-- A program that may fail does nothing but answer, if its parts do not. -/
theorem Secluded.step {first : ExceptT ε m α} {next : α → ExceptT ε m β} (secluded : Secluded first.run)
    (rest : ∀ value, Secluded (next value).run) : Secluded (first >>= next).run := by
  rw [ExceptT.run_bind]
  refine secluded.bind fun result => ?_
  cases result with
  | error problem => exact secluded_pure _
  | ok value => exact rest value

end Programs

section Scripts

variable {m : Type → Type} [Monad m] [LawfulMonad m]

omit [LawfulMonad m] in
theorem TokenCache.secluded_get (token : TokenCache) : Secluded (token.get (none : Option (TokenSource m))) := by
  unfold get
  cases token.cached <;> exact secluded_pure _

theorem QueryRun.secluded_perform (run : QueryRun) (token : TokenCache) :
    Secluded (run.perform (none : Option (TokenSource m)) token) := by
  induction run generalizing token with
  | answer result => exact secluded_pure _
  | needToken resume ih => exact token.secluded_get.bind fun fetched => ih fetched.1 fetched.2

theorem Query.secluded_invoke (query : Query) (call : Call) (token : TokenCache) :
    Secluded (query.invoke (none : Option (TokenSource m)) call token) := by
  refine (QueryRun.secluded_perform _ token).bind fun answered => ?_
  rcases answered with ⟨_ | _, _⟩ <;> exact secluded_pure _

theorem Session.secluded_invoke (session : Session) (call : Call) :
    Secluded (session.invoke (none : Option (TokenSource m)) call) := by
  unfold invoke
  cases session.invokeCapability? call with
  | some answered => exact secluded_pure _
  | none =>
    cases session.queries.find? (·.target = call.target) with
    | none => exact secluded_pure _
    | some query => exact (query.secluded_invoke call session.token).bind fun _ => secluded_pure _

namespace Script

theorem Behaviour.secluded_converse (settings : RunSettings) (behaviour : Behaviour) (lastFailure : Option CallError)
    (session : Session) : Secluded (behaviour.converse settings (none : Option (TokenSource m)) lastFailure session) := by
  induction behaviour generalizing lastFailure session with
  | ended ending => exact secluded_pure _
  | call request resume ih =>
    refine (session.secluded_invoke request).bind fun answered => ?_
    exact (ih answered.1 _ answered.2).bind fun _ => secluded_pure _

theorem secluded_converse (interpreter : Interpreter) (settings : RunSettings) (source : String) (session : Session) :
    Secluded (converse interpreter settings (none : Option (TokenSource m)) source session) := by
  unfold converse
  split
  · exact secluded_pure _
  · split
    · exact secluded_pure _
    · split
      · exact secluded_pure _
      · exact secluded_pure _
      next behaviour _ => exact behaviour.secluded_converse settings none session

theorem secluded_runSource (interpreter : Interpreter) (settings : RunSettings) (source : String) (session : Session) :
    Secluded (runSource interpreter settings (none : Option (TokenSource m)) source session) := by
  obtain ⟨spoken, ran⟩ := secluded_converse (m := m) interpreter settings source session
  exact ⟨spoken.2, by rw [runSource_eq_converse, ran, map_pure]⟩

end Script
end Scripts

namespace Pipeline

section Steps

variable {m : Type → Type} [Monad m] [LawfulMonad m] {pipeline : Pipeline m}

/-- Nobody but the repository has to do with the world. -/
structure Modest (pipeline : Pipeline m) : Prop where
  handles : ∀ task, Secluded (pipeline.handler.handle task)
  observes : ∀ task stage, Secluded (pipeline.observe task stage)
  fetches : pipeline.tokens = none

variable (modest : pipeline.Modest)

include modest

theorem Modest.enter (task : Task) (stage : Stage) : Secluded (pipeline.enter task stage).run := by
  rw [Pipeline.enter, ExceptT.run_lift]
  obtain ⟨value, observed⟩ := modest.observes (task.withInputs Inputs.empty) stage
  rw [observed, map_pure]
  exact secluded_pure _

theorem Modest.handle (task : Task) : Secluded (pipeline.handle task).run := by
  refine (modest.handles task).bind fun handled => ?_
  cases handled <;> exact secluded_pure _

theorem Modest.runPhase (phase : Phase) (inputs snapshot outputs : Values) (token : TokenCache) :
    Secluded (pipeline.runPhase phase inputs snapshot outputs token).run := by
  rw [Pipeline.runPhase, ExceptT.run_mk, modest.fetches]
  refine (Script.secluded_runSource _ _ _ _).bind fun ran => ?_
  rcases ran with ⟨source | _, session⟩ <;> exact secluded_pure _

omit [LawfulMonad m] modest in
theorem secluded_substitute (task : Task) (current : Values) : Secluded (substitute task current : Step m Task).run := by
  unfold substitute
  cases task.inputs.substitute current <;> exact secluded_pure _

/-- A task is prepared by loading the variables, and then without the world. -/
theorem Modest.prepare (task : Task) : ∃ opening : Step m Unit, ∃ rest : Values → Step m Prepared, Secluded opening.run ∧
    (∀ snapshot, Secluded (rest snapshot).run) ∧
    pipeline.prepare task = (opening >>= fun _ => pipeline.load task.instanceId >>= rest) := by
  refine ⟨_, _, modest.enter task .fetchContext, fun snapshot => ?_, rfl⟩
  refine (modest.enter task _).step fun _ => (modest.runPhase _ _ _ _ _).step fun _ => ?_
  refine (modest.enter task _).step fun _ => (modest.enter task _).step fun _ => ?_
  refine (secluded_substitute task _).step fun _ => (modest.enter task _).step fun _ => ?_
  refine (modest.handle _).step fun _ => (modest.enter task _).step fun _ => (modest.enter task _).step fun _ => ?_
  refine (modest.runPhase _ _ _ _ _).step fun _ => (modest.enter task _).step fun _ => ?_
  exact (modest.enter task _).step fun _ => secluded_pure _

end Steps

section Worlds

variable {σ : Type} {pipeline : Pipeline (StateM σ)}

/-- What becomes of a task up to storing is settled by what it loaded; the world stays as it is. -/
theorem Modest.prepare_settled (modest : pipeline.Modest) (task : Task) (answer : Except Failure Values) :
    ∃ result, ∀ world, (pipeline.repository.load task.instanceId).run world = (answer, world) →
      conduct (pipeline.prepare task) world = (result, world) := by
  obtain ⟨opening, rest, ⟨opened, opens⟩, rests, whole⟩ := modest.prepare task
  have begins : ∀ world, conduct opening world = (opened, world) := by
    intro world
    rw [conduct, opens]
    rfl
  cases opened with
  | error problem =>
    refine ⟨.error problem, fun world _ => ?_⟩
    rw [whole, conduct_bind_error _ (begins world)]
  | ok _ =>
    cases answer with
    | error failure =>
      refine ⟨.error (.fetchVariables task.instanceId failure), fun world loaded => ?_⟩
      rw [whole, conduct_bind_ok _ (begins world), load, conduct_bind_error _ (conduct_consult _ loaded)]
    | ok snapshot =>
      obtain ⟨result, ends⟩ := rests snapshot
      refine ⟨result, fun world loaded => ?_⟩
      rw [whole, conduct_bind_ok _ (begins world), load, conduct_bind_ok _ (conduct_consult _ loaded), conduct, ends]
      rfl

end Worlds

end Pipeline

theorem Worker.modest_pipeline {m : Type → Type} [Monad m] (interpreter : Script.Interpreter) (settings : RunSettings)
    (files : FileAccess m) (variablesPath : String) (queries : List Query) :
    (Worker.pipeline interpreter settings files variablesPath queries).Modest where
  handles _ := secluded_pure _
  observes _ _ := secluded_pure _
  fetches := rfl

end ScriptedTask
