import ScriptedTask.Proofs.Running

/-! Tasks that look the same to everything but substitution. Two such tasks run alike up to the
substitution of their references, and on if the handler treats what it is handed alike. -/

namespace ScriptedTask

variable {m : Type → Type} [Monad m] {α β : Type}

/-- The program where a failure tells only its stage. -/
def staged (program : Pipeline.Step m α) : ExceptT Stage m α := ExceptT.adapt PipelineError.stage program

section Stages

variable [LawfulMonad m]

theorem staged_bind (first : Pipeline.Step m α) (next : α → Pipeline.Step m β) :
    staged (first >>= next) = staged first >>= fun value => staged (next value) := by
  apply ExceptT.ext
  simp only [staged, ExceptT.run_adapt, ExceptT.run_bind, map_bind, bind_map_left]
  refine bind_congr fun outcome => ?_
  cases outcome with
  | ok value => rfl
  | error error => exact map_pure _ _

theorem throw_bind {ε : Type} (error : ε) (next : α → ExceptT ε m β) : (throw error >>= next) = throw error := by
  apply ExceptT.ext
  rw [ExceptT.run_bind, ExceptT.run_throw, pure_bind]
  rfl

theorem staged_throw_bind (error : PipelineError) (next : α → Pipeline.Step m β) :
    staged (throw error >>= next) = throw error.stage := by
  rw [throw_bind]
  apply ExceptT.ext
  rw [staged, ExceptT.run_adapt, ExceptT.run_throw, map_pure]
  rfl

end Stages

/-- Everything but substitution gets the same from both tasks. -/
structure Task.Alike (left right : Task) : Prop where
  id : left.id = right.id
  instanceId : left.instanceId = right.instanceId
  scripts : ∀ phase, Fragment.assemble left.inputs.values phase = Fragment.assemble right.inputs.values phase
  visible : Fragment.strip left.inputs.values = Fragment.strip right.inputs.values

namespace Pipeline

/-- Carries a task to the substitution of its references. Hands on what the scripts did and the
variables from which references are filled in. -/
def reach (pipeline : Pipeline m) (task : Task) : Step m (PhaseResult × TokenCache × Values) := do
  pipeline.enter task .fetchContext
  let snapshot ← pipeline.load task.instanceId
  pipeline.enter task .runPreScripts
  let (before, token) ←
    pipeline.runPhase .pre task.inputs.values snapshot SortedMap.empty { instanceId := task.instanceId }
  pipeline.enter task .mergeVariables
  pipeline.enter task .substituteReferences
  return (before, token, snapshot.overlay before.updates)

def proceed (pipeline : Pipeline m) (task : Task) (before : PhaseResult) (token : TokenCache) (current : Values)
    (substituted : Task) : Step m Outcome := do
  pipeline.enter task .invokeHandler
  let handled ← pipeline.handle substituted
  pipeline.enter task .mergeOutputs
  pipeline.enter task .runPostScripts
  let (after, _) ←
    pipeline.runPhase .post task.inputs.values current (before.outputs.overlay handled.outputs) token
  pipeline.enter task .mergeFinal
  pipeline.enter task .persistIfChanged
  pipeline.persist task.instanceId (before.updates.overlay after.updates)
  pipeline.enter task .done
  return { modules := handled.modules, outputs := after.outputs }

theorem execute_eq_reach [LawfulMonad m] (pipeline : Pipeline m) (task : Task) :
    pipeline.execute task = pipeline.reach task >>= fun (before, token, current) =>
      substitute task current >>= pipeline.proceed task before token current := by
  simp only [execute, prepare, complete, reach, bind_assoc, pure_bind]
  rfl

variable {pipeline : Pipeline m} {left right : Task}

section Alike

variable (alike : left.Alike right)

include alike

theorem enter_alike (stage : Stage) : pipeline.enter left stage = pipeline.enter right stage := by
  have same : left.withInputs Inputs.empty = right.withInputs Inputs.empty := by
    rw [Task.withInputs, Task.withInputs, alike.id, alike.instanceId]
  rw [enter, enter, same]

theorem runPhase_alike (phase : Phase) (snapshot outputs : Values) (token : TokenCache) :
    pipeline.runPhase phase left.inputs.values snapshot outputs token =
      pipeline.runPhase phase right.inputs.values snapshot outputs token := by
  simp only [runPhase, session, Session.start, VisibleInputs.ofInputs, alike.scripts phase, alike.visible]

theorem reach_alike : pipeline.reach left = pipeline.reach right := by
  simp only [reach, enter_alike alike, runPhase_alike alike, alike.instanceId]

theorem proceed_alike {first second : Task} (before : PhaseResult) (token : TokenCache) (current : Values)
    (handled : pipeline.handler.handle first = pipeline.handler.handle second) :
    pipeline.proceed left before token current first = pipeline.proceed right before token current second := by
  simp only [proceed, handle, enter_alike alike, runPhase_alike alike, alike.instanceId, handled]

/-- Alike tasks end alike if they are handled alike, or neither comes to being handled. -/
theorem execute_alike [LawfulMonad m]
    (handed : ∀ current,
      (∃ first second, left.inputs.substitute current = .ok first ∧ right.inputs.substitute current = .ok second ∧
        pipeline.handler.handle (left.withInputs first) = pipeline.handler.handle (right.withInputs second)) ∨
      ∃ problem other, left.inputs.substitute current = .error problem ∧
        right.inputs.substitute current = .error other) :
    staged (pipeline.execute left) = staged (pipeline.execute right) := by
  rw [execute_eq_reach, execute_eq_reach, staged_bind, staged_bind, reach_alike alike]
  refine bind_congr fun ⟨before, token, current⟩ => ?_
  rcases handed current with ⟨first, second, one, other, handled⟩ | ⟨problem, other, one, another⟩
  · simp only [substitute, one, other, pure_bind, proceed_alike alike before token current handled]
  · simp only [substitute, one, another, staged_throw_bind, PipelineError.stage]

end Alike
end Pipeline
end ScriptedTask
