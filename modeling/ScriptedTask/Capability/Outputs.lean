import ScriptedTask.Capability.Call

/-! The outputs gathered so far. A value is stored as it is or as its text. -/

namespace ScriptedTask

structure Outputs where
  values : Values

namespace Outputs

def set (name : String) (value : Json) (outputs : Outputs) : Outputs := ⟨outputs.values.insert name value⟩

/-- Stores the text of a value as a string, also of a value that is a string itself. -/
def setText (name : String) (value : Json) (outputs : Outputs) : Outputs :=
  outputs.set name (.string value.text)

def capability : Capability Outputs where
  target := "outputs"
  methods := [
    .writing "set" set,
    .reading "get" fun call outputs => (call.text 0).map outputs.values.get?,
    .writing "setJson" setText]

end Outputs
end ScriptedTask
