import ScriptedTask.Capability.Call
import ScriptedTask.Fragment

/-! The inputs of a task as scripts see them: without script fragments, and only to be read.
Listings are in ascending order of the names. -/

namespace ScriptedTask

/-- The inputs that scripts see. -/
structure VisibleInputs where
  inputs : Values

namespace VisibleInputs

def ofInputs (inputs : Values) : VisibleInputs := ⟨Fragment.strip inputs⟩

def capability : Capability VisibleInputs where
  target := "inputs"
  methods := [
    .reading "get" fun call visible => (call.text 0).map visible.inputs.get?,
    .reading "exists" fun call visible =>
      (call.text 0).map fun name => some (.bool (visible.inputs.contains name)),
    .reading "list" fun _ visible => .ok (some (.array visible.inputs.values)),
    .reading "listNames" fun _ visible => .ok (some (.array (visible.inputs.keys.map .string)))]

end VisibleInputs
end ScriptedTask
