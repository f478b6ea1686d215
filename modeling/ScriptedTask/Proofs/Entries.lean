import ScriptedTask.Proofs.Dialogue

/-! What calls write into the capabilities of a session. A call that succeeds writes at most one entry,
a name with a value, and a call that fails writes nothing; so the state after a dialogue is the state
before it with the entries of its calls, in order. -/

namespace ScriptedTask

variable {τ : Type}

/-- Calls of the method leave the state as it is if they fail, and else write what `binding?` says. -/
def Method.Leaves (binding? : Call → Option (String × Json)) (enter : τ → String × Json → τ) (method : Method τ) :
    Prop :=
  ∀ call state answer next, call.method = method.name → method.run call state = (answer, next) →
    match answer with
    | .error _ => next = state
    | .ok _ => next = (binding? call).elim state (enter state)

section Methods

variable {binding? : Call → Option (String × Json)} {enter : τ → String × Json → τ} {name : String}

theorem Method.reading_leaves {answer : Call → τ → Answer}
    (silent : ∀ call, call.method = name → binding? call = none) :
    (Method.reading name answer).Leaves binding? enter := by
  intro call state said next named ran
  cases ran
  rw [silent call named]
  cases answer call state <;> rfl

theorem Method.writing_leaves {change : String → Json → τ → τ}
    (writes : ∀ call written, call.method = name → call.text 0 = .ok written →
      ∃ entry, binding? call = some entry ∧ ∀ state, enter state entry = change written (call.valueAt 1) state) :
    (Method.writing name change).Leaves binding? enter := by
  intro call state said next named ran
  simp only [writing] at ran
  cases text : call.text 0 with
  | error problem =>
    rw [text] at ran
    cases ran
    rfl
  | ok written =>
    rw [text] at ran
    cases ran
    obtain ⟨entry, found, entered⟩ := writes call written named text
    simp only [found, Option.elim_some, entered]

end Methods

/-- A capability that changes only by the entries that calls write. -/
structure Ledger (τ : Type) where
  capability : Capability τ
  /-- What a call writes if it succeeds. -/
  binding? : Call → Option (String × Json)
  enter : τ → String × Json → τ
  leaves : ∀ method ∈ capability.methods, method.Leaves binding? enter

namespace Ledger

variable (ledger : Ledger τ)

def enterAll (state : τ) (entries : List (String × Json)) : τ := entries.foldl ledger.enter state

def entryOf? (exchange : Exchange) : Option (String × Json) :=
  match exchange.answer with
  | .error _ => none
  | .ok _ => ledger.binding? exchange.call

/-- The entries of the calls that succeeded. -/
def entries (dialogue : List Exchange) : List (String × Json) := dialogue.filterMap ledger.entryOf?

theorem enterAll_append (state : τ) (first second : List (String × Json)) :
    ledger.enterAll state (first ++ second) = ledger.enterAll (ledger.enterAll state first) second := List.foldl_append

theorem invoke_state {call : Call} {state next : τ} {answer : Answer}
    (invoked : ledger.capability.invoke call state = (answer, next)) :
    next = ledger.enterAll state (ledger.entryOf? ⟨call, answer⟩).toList := by
  rcases ledger.capability.invoke_cases call state with unknown | ⟨method, member, named, answered⟩
  · rw [unknown] at invoked
    cases invoked
    rfl
  · rw [answered] at invoked
    have left := ledger.leaves method member call state answer next named.symm invoked
    cases answer with
    | error problem => exact left
    | ok value =>
      rw [left]
      simp only [entryOf?]
      cases ledger.binding? call <;> rfl

theorem state_of_error {call : Call} {state next : τ} {problem : CallError}
    (failed : ledger.capability.invoke call state = (.error problem, next)) : next = state := ledger.invoke_state failed

/-- What is said to others writes nothing here. -/
theorem says_state {dialogue : List Exchange} {before after : τ} (said : ledger.capability.Says dialogue before after) :
    after = ledger.enterAll before
      (ledger.entries (dialogue.filter (·.call.target = ledger.capability.target))) := by
  induction dialogue generalizing before with
  | nil => exact (Capability.says_nil.mp said).symm
  | cons exchange rest ih =>
    obtain ⟨call, answer⟩ := exchange
    have step := Capability.says_cons.mp said
    split at step
    next addressed =>
      obtain ⟨next, invoked, spoken⟩ := step
      rw [List.filter_cons_of_pos (by simpa using addressed), entries, List.filterMap_cons, ih spoken,
        ledger.invoke_state invoked, ← enterAll_append]
      cases ledger.entryOf? ⟨call, answer⟩ <;> rfl
    next elsewhere => rw [List.filter_cons_of_neg (by simpa using elsewhere), ih step]

end Ledger

/-- The name and the value of a call. -/
def Call.binding? (call : Call) : Option (String × Json) :=
  (call.text 0).toOption.map fun name => (name, call.valueAt 1)

theorem Call.binding?_of_text {call : Call} {name : String} (text : call.text 0 = .ok name) :
    call.binding? = some (name, call.valueAt 1) := by
  rw [binding?, text]
  rfl

/-- Variables are written with `write` alone. -/
def Variables.binding? (call : Call) : Option (String × Json) := if call.method = "write" then call.binding? else none

/-- Outputs are written as they are or as texts. -/
def Outputs.binding? (call : Call) : Option (String × Json) :=
  if call.method = "set" then call.binding?
  else if call.method = "setJson" then call.binding?.map fun entry => (entry.1, .string entry.2.text)
  else none

namespace Ledger

def store : Ledger Variables where
  capability := Variables.capability
  binding? := Variables.binding?
  enter store entry := store.write entry.1 entry.2
  leaves method member := by
    simp only [Variables.capability, List.mem_cons, List.not_mem_nil, or_false] at member
    rcases member with rfl | rfl | rfl | rfl | rfl | rfl | rfl
    · apply Method.writing_leaves
      intro call name named text
      exact ⟨_, by rw [Variables.binding?, if_pos named, Call.binding?_of_text text], fun _ => rfl⟩
    all_goals
      apply Method.reading_leaves
      intro call named
      simp [Variables.binding?, named]

def inputs : Ledger VisibleInputs where
  capability := VisibleInputs.capability
  binding? _ := none
  enter inputs _ := inputs
  leaves method member := by
    simp only [VisibleInputs.capability, List.mem_cons, List.not_mem_nil, or_false] at member
    rcases member with rfl | rfl | rfl | rfl
    all_goals exact Method.reading_leaves fun _ _ => rfl

def outputs : Ledger Outputs where
  capability := Outputs.capability
  binding? := Outputs.binding?
  enter outputs entry := outputs.set entry.1 entry.2
  leaves method member := by
    simp only [Outputs.capability, List.mem_cons, List.not_mem_nil, or_false] at member
    rcases member with rfl | rfl | rfl
    · apply Method.writing_leaves
      intro call name named text
      exact ⟨_, by rw [Outputs.binding?, if_pos named, Call.binding?_of_text text], fun _ => rfl⟩
    · apply Method.reading_leaves
      intro call named
      simp [Outputs.binding?, named]
    · apply Method.writing_leaves
      intro call name named text
      refine ⟨(name, .string (call.valueAt 1).text), ?_, fun _ => rfl⟩
      simp [Outputs.binding?, named, Call.binding?_of_text text]

/-- Nothing is ever written into the inputs. -/
theorem inputs_entries (dialogue : List Exchange) : Ledger.inputs.entries dialogue = [] := by
  rw [entries, List.filterMap_eq_nil_iff]
  rintro ⟨call, answer⟩ _
  cases answer <;> rfl

end Ledger
end ScriptedTask
