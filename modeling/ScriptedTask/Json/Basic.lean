import ScriptedTask.SortedMap

/-! JSON values. A whole number within 64 bits, signed or unsigned, stays exact; every other
number is a finite double. The members of an object are a map, so an object is determined
by its look-ups and has one text. -/

namespace ScriptedTask

/-- Whole numbers that stay exact. -/
def InRange (value : Int) : Prop := -0x8000000000000000 ≤ value ∧ value < 0x10000000000000000

instance (value : Int) : Decidable (InRange value) := inferInstanceAs (Decidable (_ ∧ _))

inductive Json where
  | null
  | bool (value : Bool)
  | integer (value : Int) (inRange : InRange value)
  | float (value : Float)
  | string (text : String)
  | array (items : List Json)
  | object (members : Ascending Json none)

namespace Json

instance : Inhabited Json := ⟨.null⟩

/-- The word for the kind of a value. -/
def kind : Json → String
  | .null => "null"
  | .bool _ => "boolean"
  | .integer .. | .float _ => "number"
  | .string _ => "string"
  | .array _ => "array"
  | .object _ => "object"

end Json

/-- Named values: the variables of a process instance, the inputs of a task, or its outputs. -/
abbrev Values := SortedMap Json

end ScriptedTask
