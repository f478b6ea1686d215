import ScriptedTask.Script.Interchange

/-! What computations cost. A heap has a budget of work and room for bytes; a computation that a heap
can afford comes to its value, and one that it cannot afford fails or is stopped. -/

namespace ScriptedTask.Script

namespace Heap

variable {heap middle later : Heap} {work more room other : Nat}

/-- So much may still be done, and so much may still be taken. -/
structure Affords (heap : Heap) (work room : Nat) : Prop where
  work : work ≤ heap.budget
  room : ∀ limit, heap.limit = some limit → heap.used + room ≤ limit

/-- No more than this was done and taken since. -/
structure Spends (heap later : Heap) (work room : Nat) : Prop where
  budget : heap.budget ≤ later.budget + work
  used : later.used ≤ heap.used + room
  limit : later.limit = heap.limit

theorem Spends.refl (heap : Heap) : heap.Spends heap work room := ⟨by omega, by omega, rfl⟩

theorem Spends.trans (first : heap.Spends middle work room) (second : middle.Spends later more other) :
    heap.Spends later (work + more) (room + other) where
  budget := by
    have := first.budget
    have := second.budget
    omega
  used := by
    have := first.used
    have := second.used
    omega
  limit := second.limit.trans first.limit

/-- What is left after some was spent is enough for the rest. -/
theorem Affords.rest (affords : heap.Affords (work + more) (room + other)) (spends : heap.Spends later work room) :
    later.Affords more other where
  work := by
    have := affords.work
    have := spends.budget
    omega
  room limit limited := by
    have := affords.room limit (spends.limit ▸ limited)
    have := spends.used
    omega

theorem Affords.mono (affords : heap.Affords more other) (lessWork : work ≤ more) (lessRoom : room ≤ other) :
    heap.Affords work room where
  work := Nat.le_trans lessWork affords.work
  room limit limited := Nat.le_trans (Nat.add_le_add_left lessRoom _) (affords.room limit limited)

theorem Spends.mono (spends : heap.Spends later work room) (moreWork : work ≤ more) (moreRoom : room ≤ other) :
    heap.Spends later more other where
  budget := Nat.le_trans spends.budget (Nat.add_le_add_left moreWork _)
  used := Nat.le_trans spends.used (Nat.add_le_add_left moreRoom _)
  limit := spends.limit

end Heap

namespace Eval

variable {α β : Type} {comp : Eval α} {heap : Heap} {work more room other : Nat} {post : α → Heap → Prop}

/-- By itself the computation comes to a value, at no more than this cost. It fails only if the heap
cannot afford that. -/
def Costs (comp : Eval α) (heap : Heap) (work room : Nat) (post : α → Heap → Prop) : Prop :=
  match comp heap with
  | .done later (.ok value) => heap.Spends later work room ∧ post value later
  | .done _ (.error _) | .stopped => ¬heap.Affords work room
  | .ask .. | .outside .. => False

theorem Costs.of_done {later : Heap} {value : α} (done : comp heap = .done later (.ok value))
    (spends : heap.Spends later work room) (holds : post value later) : Costs comp heap work room post := by
  rw [Costs, done]
  exact ⟨spends, holds⟩

theorem Costs.of_failed {later : Heap} {thrown : Value} (failed : comp heap = .done later (.error thrown))
    (poor : ¬heap.Affords work room) : Costs comp heap work room post := by
  rw [Costs, failed]
  exact poor

theorem Costs.mono {wider : α → Heap → Prop} (costs : Costs comp heap work room post) (moreWork : work ≤ more)
    (moreRoom : room ≤ other) (weaker : ∀ value later, post value later → wider value later) :
    Costs comp heap more other wider := by
  rw [Costs] at costs ⊢
  split at costs
  · exact ⟨costs.1.mono moreWork moreRoom, weaker _ _ costs.2⟩
  · exact fun affords => costs (affords.mono moreWork moreRoom)
  · exact fun affords => costs (affords.mono moreWork moreRoom)
  · exact costs
  · exact costs

theorem Costs.imp {wider : α → Heap → Prop} (costs : Costs comp heap work room post)
    (weaker : ∀ value later, post value later → wider value later) : Costs comp heap work room wider :=
  costs.mono (Nat.le_refl _) (Nat.le_refl _) weaker

/-- What is done one after the other costs what both cost. -/
theorem Costs.bind {next : α → Eval β} {goal : β → Heap → Prop} {total whole : Nat} (first : Costs comp heap work room post)
    (more other : Nat) (enough : work + more ≤ total ∧ room + other ≤ whole)
    (rest : ∀ value later, post value later → Costs (next value) later more other goal) :
    Costs (comp >>= next) heap total whole goal := by
  suffices both : Costs (comp >>= next) heap (work + more) (room + other) goal from
    both.mono enough.1 enough.2 fun _ _ holds => holds
  rw [Costs] at first
  split at first
  next later value done =>
    have second := rest value later first.2
    have whole : (comp >>= next) heap = next value later := by
      change Eval.bind comp next heap = _
      rw [Eval.bind, done]
    rw [Costs, whole]
    rw [Costs] at second
    split at second
    next found => exact ⟨first.1.trans second.1, second.2⟩
    · exact fun affords => second (affords.rest first.1)
    · exact fun affords => second (affords.rest first.1)
    · exact second
    · exact second
  next later thrown failed =>
    have whole : (comp >>= next) heap = .done later (.error thrown) := by
      change Eval.bind comp next heap = _
      rw [Eval.bind, failed]
    exact .of_failed whole fun affords => first (affords.mono (by omega) (by omega))
  next stopped =>
    have whole : (comp >>= next) heap = .stopped := by
      change Eval.bind comp next heap = _
      rw [Eval.bind, stopped]
      rfl
    rw [Costs, whole]
    exact fun affords => first (affords.mono (by omega) (by omega))
  · exact first.elim
  · exact first.elim

theorem costs_pure {value : α} (holds : post value heap) : Costs (Pure.pure value) heap work room post :=
  .of_done rfl (.refl heap) holds

theorem costs_look (view : Heap → α) (heap : Heap) :
    Costs (look view) heap 0 0 fun value later => value = view heap ∧ heap = later :=
  .of_done rfl (.refl heap) ⟨rfl, rfl⟩

theorem costs_spend (work : Nat) (heap : Heap) :
    Costs (spend work) heap work 0 fun _ later => later.objects = heap.objects := by
  by_cases poor : heap.budget < work
  · have stopped : spend work heap = .stopped := if_pos poor
    rw [Costs, stopped]
    exact fun affords => Nat.not_lt.mpr affords.work poor
  · refine .of_done (if_neg poor) ⟨?_, Nat.le_refl _, rfl⟩ rfl
    simp only
    omega

theorem costs_change (f : Heap → Heap) (heap : Heap) (spends : heap.Spends (f heap) 0 0) :
    Costs (change f) heap 0 0 fun _ later => later = f heap :=
  .of_done rfl spends rfl

theorem charge_eq (bytes : Nat) (heap : Heap) : charge bytes heap =
    match heap.limit with
    | none => .done heap (.ok ())
    | some limit =>
      if heap.used + bytes ≤ limit then .done { heap with used := heap.used + bytes } (.ok ())
      else if heap.used + errorSize ≤ limit then raiseError Place.internalErrorParent "out of memory" heap
      else .done heap (.error .null) := by
  obtain ⟨objects, scopes, used, limit, depth, budget, closures⟩ := heap
  unfold charge
  change Eval.bind _ _ _ = _
  simp only [Eval.bind, Eval.heap]
  cases limit with
  | none => rfl
  | some limit =>
    simp only
    split
    · rfl
    · split <;> rfl

theorem costs_charge (bytes : Nat) (heap : Heap) :
    Costs (charge bytes) heap 0 bytes fun _ later => later.objects = heap.objects := by
  have charged := charge_eq bytes heap
  cases limited : heap.limit with
  | none =>
    rw [limited] at charged
    exact .of_done charged (.refl heap) rfl
  | some limit =>
    rw [limited] at charged
    simp only at charged
    split at charged
    · exact .of_done charged ⟨Nat.le_refl _, Nat.le_refl _, limited.symm⟩ rfl
    next full =>
      have poor : ¬heap.Affords 0 bytes := fun affords => full (affords.room limit limited)
      split at charged
      · exact .of_failed charged poor
      · exact .of_failed charged poor

end Eval
end ScriptedTask.Script
