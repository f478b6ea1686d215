import ScriptedTask.Proofs.Entries
import ScriptedTask.Proofs.Overlay

/-! The outputs under the calls of a script. Only `set` and `setJson` change them, where they succeed; the
last value that a script set for a name replaces what was there before. -/

namespace ScriptedTask

/-- What a dialogue sets, in order: calls to the outputs that succeeded, with the values that they stored. -/
def setsOf (dialogue : List Exchange) : List (String × Json) :=
  Ledger.outputs.entries (dialogue.filter (·.call.target = Outputs.capability.target))

def lastSet (name : String) (dialogue : List Exchange) : Option Json := (setsOf dialogue).reverse.lookup name

namespace Outputs

def setAll (outputs : Outputs) (sets : List (String × Json)) : Outputs :=
  sets.foldl (fun outputs pair => outputs.set pair.1 pair.2) outputs

theorem values_setAll (outputs : Outputs) (sets : List (String × Json)) :
    (outputs.setAll sets).values = sets.foldl (fun entries pair => entries.insert pair.1 pair.2) outputs.values := by
  induction sets generalizing outputs with
  | nil => rfl
  | cons pair rest ih => exact ih (outputs.set pair.1 pair.2)

/-- After a dialogue a name has the value that was set last, or else what it had before. -/
theorem get?_says {dialogue : List Exchange} {before after : Outputs} (said : capability.Says dialogue before after)
    (name : String) : after.values.get? name = (lastSet name dialogue).or (before.values.get? name) := by
  have left : after = before.setAll (setsOf dialogue) := Ledger.outputs.says_state said
  rw [left, values_setAll, Ascending.get?_foldl_insert]
  rfl

theorem invoke_get {call : Call} {name : String} (looks : call.method = "get") (text : call.text 0 = .ok name)
    (outputs : Outputs) : capability.invoke call outputs = (.ok (outputs.values.get? name), outputs) := by
  simp [Capability.invoke, capability, Method.writing, Method.reading, looks, text, Except.map]

theorem invoke_setJson {call : Call} {name : String} (sets : call.method = "setJson")
    (named : call.text 0 = .ok name) (outputs : Outputs) :
    capability.invoke call outputs = (.ok none, outputs.set name (.string (call.valueAt 1).text)) := by
  simp [Capability.invoke, capability, Method.writing, Method.reading, sets, named, setText]

end Outputs
end ScriptedTask
