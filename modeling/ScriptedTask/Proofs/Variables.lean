import ScriptedTask.Proofs.Entries
import ScriptedTask.Proofs.Overlay

/-! The variables of a phase under the calls of a script. Only a write that succeeds changes them,
and then what is pending, laid over the variables at the start, is what scripts see. -/

namespace ScriptedTask

/-- The name and the value that an exchange writes, if it is a write that succeeded. -/
def Exchange.written? (exchange : Exchange) : Option (String × Json) :=
  match exchange.answer with
  | .error _ => none
  | .ok _ =>
    if exchange.call.target = Variables.capability.target ∧ exchange.call.method = "write"
    then (exchange.call.text 0).toOption.map fun name => (name, exchange.call.valueAt 1)
    else none

def writesOf (dialogue : List Exchange) : List (String × Json) := dialogue.filterMap Exchange.written?

theorem Exchange.written?_eq (exchange : Exchange) :
    exchange.written? =
      if exchange.call.target = Variables.capability.target then Ledger.store.entryOf? exchange else none := by
  obtain ⟨call, answer⟩ := exchange
  cases answer with
  | error problem => simp [written?, Ledger.entryOf?]
  | ok value =>
    simp only [written?, Ledger.entryOf?, Ledger.store, Variables.binding?, Call.binding?]
    by_cases addressed : call.target = Variables.capability.target <;> by_cases writes : call.method = "write" <;>
      simp [addressed, writes]

theorem writesOf_eq (dialogue : List Exchange) :
    writesOf dialogue = Ledger.store.entries (dialogue.filter (·.call.target = Variables.capability.target)) := by
  rw [writesOf, Ledger.entries, List.filterMap_filter]
  congr 1
  funext exchange
  rw [exchange.written?_eq]
  by_cases addressed : exchange.call.target = Variables.capability.target <;> simp [addressed]

def lastWritten (name : String) (dialogue : List Exchange) : Option Json := (writesOf dialogue).reverse.lookup name

theorem lastWritten_append (name : String) (first second : List Exchange) :
    lastWritten name (first ++ second) = (lastWritten name second).or (lastWritten name first) := by
  simp only [lastWritten, writesOf, List.filterMap_append, List.reverse_append, List.lookup_append]

theorem lastWritten_eq_none {dialogue : List Exchange} :
    (∀ name, lastWritten name dialogue = none) ↔ writesOf dialogue = [] := by
  constructor
  · intro unwritten
    cases written : writesOf dialogue with
    | nil => rfl
    | cons pair rest =>
      have missing := unwritten pair.1
      rw [lastWritten, List.lookup_eq_none_iff] at missing
      have differ := missing pair (by simp [written])
      simp at differ
  · intro silent name
    rw [lastWritten, silent]
    rfl

namespace Variables

def writeAll (store : Variables) (writes : List (String × Json)) : Variables :=
  writes.foldl (fun store pair => store.write pair.1 pair.2) store

/-- What a dialogue leaves is what it started from, with all that it writes. -/
theorem says_state {dialogue : List Exchange} {store last : Variables}
    (said : capability.Says dialogue store last) : last = store.writeAll (writesOf dialogue) := by
  rw [writesOf_eq]
  exact Ledger.store.says_state said

theorem pending_writeAll (store : Variables) (writes : List (String × Json)) :
    (store.writeAll writes).pending = writes.foldl (fun entries pair => entries.insert pair.1 pair.2) store.pending := by
  induction writes generalizing store with
  | nil => rfl
  | cons pair rest ih => exact ih (store.write pair.1 pair.2)

theorem current_writeAll {base : Values} {store : Variables} (writes : List (String × Json))
    (laid : store.current = base.overlay store.pending) :
    (store.writeAll writes).current = base.overlay (store.writeAll writes).pending := by
  induction writes generalizing store with
  | nil => exact laid
  | cons pair rest ih =>
    have next : (store.write pair.1 pair.2).current = base.overlay (store.write pair.1 pair.2).pending := by
      simp only [write, laid, Ascending.overlay_insert]
    exact ih next

theorem strict_writeAll (store : Variables) (writes : List (String × Json)) :
    (store.writeAll writes).strict = store.strict := by
  induction writes generalizing store with
  | nil => rfl
  | cons pair rest ih => exact ih (store.write pair.1 pair.2)

section Dialogue

variable {dialogue : List Exchange} {snapshot : Values} {strict : Bool} {last : Variables}
  (said : capability.Says dialogue { current := snapshot, strict := strict } last)

include said

theorem says_current : last.current = snapshot.overlay last.pending := by
  rw [says_state said]
  exact current_writeAll _ rfl

theorem says_strict : last.strict = strict := by
  rw [says_state said, strict_writeAll]

/-- Every name that was written is pending with the last value, and no other name. -/
theorem says_pending (name : String) : last.pending.get? name = lastWritten name dialogue := by
  rw [says_state said, pending_writeAll, Ascending.get?_foldl_insert, Ascending.get?_empty, Option.or_none,
    lastWritten]

end Dialogue

/-- The same variables where earlier changes are pending, too. -/
def above (earlier : Values) (store : Variables) : Variables :=
  { store with pending := earlier.overlay store.pending }

/-- Earlier changes that are pending show in no answer. -/
theorem commutes_above (earlier : Values) : ∀ method ∈ capability.methods, method.Commutes (above earlier) := by
  intro method member call store
  simp only [capability, List.mem_cons, List.not_mem_nil, or_false] at member
  rcases member with rfl | rfl | rfl | rfl | rfl | rfl | rfl
  · cases text : call.text 0 <;> simp [Method.writing, text, write, above, Ascending.overlay_insert]
  all_goals rfl

end Variables
end ScriptedTask
