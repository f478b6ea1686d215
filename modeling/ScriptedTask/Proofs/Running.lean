import ScriptedTask.Pipeline.Basic

/-! Programs run in a world that every collaborator may look at and change. A run of a compound
program is taken apart into the runs of its parts. -/

namespace ScriptedTask

variable {σ α β ε : Type}

theorem run_bind_of {first : StateM σ α} {world middle : σ} {value : α} (next : α → StateM σ β)
    (ran : first.run world = (value, middle)) : (first >>= next).run world = (next value).run middle := by
  rw [StateT.run_bind, ran]
  rfl

theorem run_map_of {program : StateM σ α} {world later : σ} {value : α} (f : α → β)
    (ran : program.run world = (value, later)) : (f <$> program).run world = (f value, later) := by
  rw [StateT.run_map, ran]
  rfl

theorem run_bind_eq {first : StateM σ α} {next : α → StateM σ β} {world later : σ} {result : β}
    (ran : (first >>= next).run world = (result, later)) :
    ∃ value middle, first.run world = (value, middle) ∧ (next value).run middle = (result, later) :=
  ⟨_, _, rfl, ran⟩

/-- The run of a program that may fail. -/
def conduct (program : ExceptT ε (StateM σ) α) (world : σ) : Except ε α × σ := program.run.run world

theorem conduct_bind_ok {first : ExceptT ε (StateM σ) α} {world middle : σ} {value : α}
    (next : α → ExceptT ε (StateM σ) β) (ran : conduct first world = (.ok value, middle)) :
    conduct (first >>= next) world = conduct (next value) middle := by
  unfold conduct at *
  rw [ExceptT.run_bind, StateT.run_bind, ran]
  rfl

theorem conduct_bind_error {first : ExceptT ε (StateM σ) α} {world middle : σ} {error : ε}
    (next : α → ExceptT ε (StateM σ) β) (ran : conduct first world = (.error error, middle)) :
    conduct (first >>= next) world = (.error error, middle) := by
  unfold conduct at *
  rw [ExceptT.run_bind, StateT.run_bind, ran]
  rfl

/-- Either the first part fails and the rest is left out, or the rest goes on where the first
part ended. -/
theorem conduct_bind_cases {first : ExceptT ε (StateM σ) α} {next : α → ExceptT ε (StateM σ) β}
    {world later : σ} {result : Except ε β} (ran : conduct (first >>= next) world = (result, later)) :
    (∃ error, conduct first world = (.error error, later) ∧ result = .error error) ∨
      ∃ value middle, conduct first world = (.ok value, middle) ∧
        conduct (next value) middle = (result, later) := by
  rcases ended : conduct first world with ⟨error | value, middle⟩
  · rw [conduct_bind_error next ended] at ran
    cases ran
    exact .inl ⟨error, rfl, rfl⟩
  · rw [conduct_bind_ok next ended] at ran
    exact .inr ⟨value, middle, rfl, ran⟩

theorem conduct_bind_ok_iff {first : ExceptT ε (StateM σ) α} {next : α → ExceptT ε (StateM σ) β}
    {world later : σ} {value : β} :
    conduct (first >>= next) world = (.ok value, later) ↔
      ∃ middle between, conduct first world = (.ok middle, between) ∧
        conduct (next middle) between = (.ok value, later) := by
  constructor
  · intro ran
    rcases conduct_bind_cases ran with ⟨error, _, impossible⟩ | found
    · cases impossible
    · exact found
  · rintro ⟨middle, between, started, rest⟩
    rw [conduct_bind_ok next started, rest]

theorem conduct_lift_ok {act : StateM σ α} {world later : σ} {value : α}
    (ran : conduct (ExceptT.lift act : ExceptT ε (StateM σ) α) world = (.ok value, later)) :
    act.run world = (value, later) := by
  rcases acted : act.run world with ⟨found, middle⟩
  rw [conduct, ExceptT.run_lift, run_map_of Except.ok acted] at ran
  cases ran
  rfl

/-- A collaborator's failure is blamed on a stage; what else it answers is kept. -/
theorem conduct_consult (blame : Failure → PipelineError) {act : StateM σ (Except Failure α)} {world later : σ}
    {answer : Except Failure α} (acted : act.run world = (answer, later)) :
    conduct (Pipeline.consult blame act) world = (answer.mapError blame, later) := by
  rw [conduct, Pipeline.consult, ExceptT.run_mk, StateT.run_bind, acted]
  cases answer <;> rfl

theorem conduct_consult_ok {blame : Failure → PipelineError} {act : StateM σ (Except Failure α)} {world later : σ}
    {value : α} (consulted : conduct (Pipeline.consult blame act) world = (.ok value, later)) :
    act.run world = (.ok value, later) := by
  rcases acted : act.run world with ⟨answer, middle⟩
  rw [conduct_consult blame acted] at consulted
  cases answer <;> cases consulted
  rfl

theorem conduct_consult_error {blame : Failure → PipelineError} {act : StateM σ (Except Failure α)} {world later : σ}
    {error : PipelineError} (consulted : conduct (Pipeline.consult blame act) world = (.error error, later)) :
    ∃ failure, act.run world = (.error failure, later) ∧ error = blame failure := by
  rcases acted : act.run world with ⟨answer, middle⟩
  rw [conduct_consult blame acted] at consulted
  cases answer <;> cases consulted
  exact ⟨_, rfl, rfl⟩

end ScriptedTask
