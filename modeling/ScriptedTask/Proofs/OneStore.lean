import ScriptedTask.Proofs.Passage

/-! The two script phases of an invocation share one store. The second phase starts from merged
variables and an empty set of changes, yet it gets every answer that one store, kept from the
snapshot on, would give; and the changes that are stored are what that store has pending. -/

namespace ScriptedTask.Pipeline

variable {σ : Type}

/-- One store answers the calls of both phases, from the snapshot on. `between` is the store after
the first phase and `closing` the store in the end. -/
structure OneStore (pipeline : Pipeline (StateM σ)) (task : Task) (passage : Passage)
    (between closing : Variables) : Prop where
  loaded : ∃ world later, (pipeline.repository.load task.instanceId).run world = (.ok passage.snapshot, later)
  before : Variables.capability.Says passage.before (pipeline.opening passage.snapshot) between
  after : Variables.capability.Says passage.after between closing
  /-- References were filled in from what the store held between the phases. -/
  current : passage.current = between.current
  substituted : (task.inputs.substitute between.current).map task.withInputs = .ok passage.substituted
  changes : passage.changes = closing.pending
  written : ∀ name, passage.changes.get? name = lastWritten name (passage.before ++ passage.after)
  laid : passage.snapshot.overlay passage.changes = closing.current

/-- An invocation that comes to storing its changes has got every answer from one store, and stores
what that store has pending. -/
theorem phases_share_one_store (pipeline : Pipeline (StateM σ)) (task : Task) :
    pipeline.execute task = pipeline.tell task >>= pipeline.leave task ∧
    ∀ world passage later, conduct (pipeline.tell task) world = (.ok passage, later) →
      ∃ between closing, pipeline.OneStore task passage between closing := by
  refine ⟨pipeline.execute_eq_tell task, ?_⟩
  intro world passage later told
  obtain ⟨first, second, via⟩ := tell_ok told
  have before := says_before via
  have after := says_after via
  have between : passage.current = first.store.current := by rw [via.current, Variables.says_current before]
  -- Both phases of the one store differ from the second phase only in what is pending at its start.
  have joined : (pipeline.opening passage.current).above first.store.pending = first.store := by
    rw [between, opening, ← Variables.says_strict before]
    rfl
  have closing := after.change (Variables.commutes_above first.store.pending)
  rw [joined] at closing
  refine ⟨first.store, second.store.above first.store.pending, via.loaded, before, closing, between,
    between ▸ via.substituted, via.changes, get?_changes via, ?_⟩
  rw [via.changes, ← Ascending.overlay_assoc, ← via.current]
  exact (Variables.says_current after).symm

/-- A task with a script for either phase and a reference. -/
def flagged : Task where
  id := "task"
  instanceId := "instance"
  inputs :=
    { entries := [("prescript", ⟨.string "before", none⟩), ("flag", ⟨.string "\x7b\x7b.flag\x7d\x7d", none⟩),
        ("postscript", ⟨.string "after", none⟩)]
      distinct := by decide }

/-- Both phases set a flag, the second after it looked at it; a read without a name fails. -/
def flagging : Pipeline (StateM (List Values)) :=
  rehearsal (SortedMap.ofList [("flag", .null)])
    [⟨"variables", "write", [some (.string "flag"), some (.bool false)]⟩, ⟨"variables", "read", []⟩]
    [⟨"variables", "read", [some (.string "flag")]⟩,
      ⟨"variables", "write", [some (.string "flag"), some (.bool true)]⟩]

theorem flag_is_kept_in_one_store : ∃ passage later,
    conduct (flagging.tell flagged) [] = (.ok passage, later) ∧
      ∃ between closing, flagging.OneStore flagged passage between closing := by
  have arrives : (conduct (flagging.tell flagged) []).1.isOk = true := by decide +kernel
  rcases told : conduct (flagging.tell flagged) [] with ⟨error | passage, later⟩
  · rw [told] at arrives
    cases arrives
  · exact ⟨passage, later, rfl, (flagging.phases_share_one_store flagged).2 [] passage later told⟩

end ScriptedTask.Pipeline
