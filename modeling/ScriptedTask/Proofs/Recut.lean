import ScriptedTask.Proofs.Alike
import ScriptedTask.Proofs.Passage
import ScriptedTask.Proofs.Substitution

/-! How a script is cut into fragments matters to substitution alone. Fragments are inputs, too,
so each must be a template by itself; nothing else looks at a fragment without the others. -/

namespace ScriptedTask

/-- The tasks differ only in how they cut the script of a phase. -/
structure Task.Recut (phase : Phase) (left right : Task) : Prop where
  id : left.id = right.id
  instanceId : left.instanceId = right.instanceId
  beside : left.inputs.beside phase = right.inputs.beside phase
  script : ∃ script, left.inputs.Cuts phase script ∧ right.inputs.Cuts phase script

/-- The handler does the same with two tasks that differ only in inputs with reserved names. -/
def Handler.IgnoresReserved {m : Type → Type} (handler : Handler m) : Prop :=
  ∀ left right : Task, left.id = right.id → left.instanceId = right.instanceId →
    left.inputs.unreserved = right.inputs.unreserved → handler.handle left = handler.handle right

namespace Task.Recut

variable {phase : Phase} {left right : Task} (recut : Task.Recut phase left right)

include recut

theorem unreserved : left.inputs.unreserved = right.inputs.unreserved := by
  rw [left.inputs.unreserved_beside phase, recut.beside, ← right.inputs.unreserved_beside phase]

theorem alike : left.Alike right where
  id := recut.id
  instanceId := recut.instanceId
  scripts other := by
    by_cases same : phase = other
    · subst same
      obtain ⟨script, one, another⟩ := recut.script
      rw [(left.inputs.cuts_assemble phase).unique one, (right.inputs.cuts_assemble phase).unique another]
    · apply Inputs.assemble_congr
      rw [left.inputs.fragments_beside same, recut.beside, ← right.inputs.fragments_beside same]
  visible := by rw [Inputs.strip_values, Inputs.strip_values, recut.unreserved]

end Task.Recut

theorem conduct_staged {σ α : Type} (program : Pipeline.Step (StateM σ) α) (world : σ) :
    conduct (staged program) world =
      ((conduct program world).1.mapError PipelineError.stage, (conduct program world).2) := by
  rw [conduct, staged, ExceptT.run_adapt]
  rfl

namespace Pipeline

variable {σ : Type} {pipeline : Pipeline (StateM σ)} {phase : Phase} {left right : Task}

/-- If both tasks can be substituted or neither can, they end alike. -/
theorem execute_recut (ignores : pipeline.handler.IgnoresReserved) (recut : Task.Recut phase left right)
    (same : left.inputs.AllTemplates ↔ right.inputs.AllTemplates) :
    staged (pipeline.execute left) = staged (pipeline.execute right) := by
  refine execute_alike recut.alike fun current => ?_
  rcases left.inputs.substitute_cases current with ⟨well, first, one⟩ | ⟨ill, problem, one⟩
  · rcases right.inputs.substitute_cases current with ⟨-, second, other⟩ | ⟨ill, -⟩
    · refine .inl ⟨first, second, one, other, ?_⟩
      exact ignores _ _ recut.id recut.instanceId (Inputs.unreserved_substitute recut.unreserved one other)
    · exact absurd (same.mp well) ill
  · rcases right.inputs.substitute_cases current with ⟨well, -⟩ | ⟨-, other, another⟩
    · exact absurd (same.mpr well) ill
    · exact .inr ⟨problem, other, one, another⟩

section Early

variable {task : Task} {world later : σ} {error : PipelineError}

theorem runPhase_failed {inputs snapshot outputs : Values} {token : TokenCache}
    (failed : conduct (pipeline.runPhase phase inputs snapshot outputs token) world = (.error error, later)) :
    ∃ source, error = .script phase source := by
  obtain ⟨⟨result, session⟩, middle, -, ended⟩ := run_bind_eq failed
  cases result with
  | ok _ => cases ended
  | error source =>
    cases ended
    exact ⟨source, rfl⟩

/-- On the way to substitution, loading and the first scripts are all that can fail. -/
theorem reach_failed (failed : conduct (pipeline.reach task) world = (.error error, later)) :
    error.stage = .fetchContext ∨ error.stage = .runPreScripts := by
  rw [reach, conduct_enter_bind] at failed
  rcases conduct_bind_cases failed with ⟨_, unloaded, ⟨⟩⟩ | ⟨snapshot, middle, -, rest⟩
  · obtain ⟨failure, -, rfl⟩ := conduct_consult_error unloaded
    exact .inl rfl
  · rw [conduct_enter_bind] at rest
    rcases conduct_bind_cases rest with ⟨_, broken, ⟨⟩⟩ | ⟨_, last, -, reached⟩
    · obtain ⟨source, rfl⟩ := runPhase_failed broken
      exact .inr rfl
    · cases reached

end Early

/-- A task that cannot be substituted fails there, unless it fails before as the other one does. -/
theorem execute_illFormed (recut : Task.Recut phase left right) (ill : ¬right.inputs.AllTemplates) (world : σ) :
    ∃ error later, conduct (pipeline.execute right) world = (.error error, later) ∧
      (error.stage = .substituteReferences ∨
        (error.stage = .fetchContext ∨ error.stage = .runPreScripts) ∧
          conduct (staged (pipeline.execute left)) world = (.error error.stage, later)) := by
  rcases reached : conduct (pipeline.reach right) world with ⟨error | ⟨before, token, current⟩, later⟩
  · refine ⟨error, later, ?_, .inr ⟨reach_failed reached, ?_⟩⟩
    · rw [execute_eq_reach, conduct_bind_error _ reached]
    · rw [conduct_staged, execute_eq_reach, reach_alike recut.alike, conduct_bind_error _ reached]
      rfl
  · rcases right.inputs.substitute_cases current with ⟨well, -⟩ | ⟨-, problem, failed⟩
    · exact absurd well ill
    · refine ⟨.substitution problem, later, ?_, .inl rfl⟩
      rw [execute_eq_reach, conduct_bind_ok _ reached]
      apply conduct_bind_error
      rw [conduct_substitute, failed]
      rfl

/-- How a script is cut does not matter if all fragments of both tasks are templates, or both tasks
hold some input that is none. Otherwise the task that holds one fails at substitution, or in a stage
before it, in which the other one fails then, too. -/
theorem recut_runs_alike (ignores : pipeline.handler.IgnoresReserved) (recut : Task.Recut phase left right) :
    ((left.inputs.AllTemplates ↔ right.inputs.AllTemplates) →
      staged (pipeline.execute left) = staged (pipeline.execute right)) ∧
    (¬right.inputs.AllTemplates → ∀ world, ∃ error later,
      conduct (pipeline.execute right) world = (.error error, later) ∧
        (error.stage = .substituteReferences ∨
          (error.stage = .fetchContext ∨ error.stage = .runPreScripts) ∧
            conduct (staged (pipeline.execute left)) world = (.error error.stage, later))) :=
  ⟨execute_recut ignores recut, execute_illFormed recut⟩

/-- A task that has the given fragments before its handler and nothing else. -/
def cutInto (pieces : List (String × String)) (distinct : (pieces.map Prod.fst).Nodup) : Task where
  inputs :=
    { entries := pieces.map fun piece => (piece.1, ⟨.string piece.2, none⟩)
      distinct := by rw [List.map_map]; exact distinct }

/-- A script that is a quoted reference, whole, cut beside the reference and cut within it. -/
def uncut : Task := cutInto [("prescript", "'\x7b\x7b.flag\x7d\x7d'")] (by decide)

def cutBeside : Task := cutInto [("prescript_1", "'"), ("prescript_2", "\x7b\x7b.flag\x7d\x7d'")] (by decide)

def cutWithin : Task := cutInto [("prescript_1", "'\x7b\x7b.fl"), ("prescript_2", "ag\x7d\x7d'")] (by decide)

/-- Scripts do nothing, and the handler does the same with every task. -/
def idle : Pipeline (StateM (List Values)) := rehearsal SortedMap.empty [] []

theorem idle_ignores : idle.handler.IgnoresReserved := fun _ _ _ _ _ => rfl

theorem recut_beside : Task.Recut .pre uncut cutBeside where
  id := rfl
  instanceId := rfl
  beside := rfl
  script := ⟨"'\x7b\x7b.flag\x7d\x7d'", ⟨_, by decide, .refl _, rfl⟩, ⟨_, by decide, .refl _, rfl⟩⟩

theorem recut_within : Task.Recut .pre uncut cutWithin where
  id := rfl
  instanceId := rfl
  beside := rfl
  script := ⟨"'\x7b\x7b.flag\x7d\x7d'", ⟨_, by decide, .refl _, rfl⟩, ⟨_, by decide, .refl _, rfl⟩⟩

theorem quoted_reference_runs_alike :
    staged (idle.execute uncut) = staged (idle.execute cutBeside) ∧
    ∃ error later, conduct (idle.execute cutWithin) [] = (.error error, later) ∧
      (error.stage = .substituteReferences ∨
        (error.stage = .fetchContext ∨ error.stage = .runPreScripts) ∧
          conduct (staged (idle.execute uncut)) [] = (.error error.stage, later)) := by
  have whole : uncut.inputs.AllTemplates := by decide +kernel
  have beside : cutBeside.inputs.AllTemplates := by decide +kernel
  have within : ¬cutWithin.inputs.AllTemplates := by decide +kernel
  exact ⟨(recut_runs_alike idle_ignores recut_beside).1 (iff_of_true whole beside),
    (recut_runs_alike idle_ignores recut_within).2 within []⟩

/-- A cut within a reference makes an invocation fail that succeeds otherwise. -/
theorem cut_within_reference_fails :
    idle.handler.IgnoresReserved ∧ Task.Recut .pre uncut cutWithin ∧
      (conduct (idle.execute uncut) []).1.isOk = true ∧ (conduct (idle.execute cutWithin) []).1.isOk = false :=
  ⟨idle_ignores, recut_within, by decide +kernel, by decide +kernel⟩

end Pipeline
end ScriptedTask
