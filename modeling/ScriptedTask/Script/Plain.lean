import ScriptedTask.Script.Value

/-! Plain data: what scripts and their surroundings can both say. Texts may hold surrogates that
stand alone, members keep their order, and every number is a double. -/

namespace ScriptedTask.Script

open Text (Units)

mutual
inductive Plain where
  | null
  | bool (value : Bool)
  | number (value : Num)
  | text (units : Units)
  | list (items : List Plain)
  | record (members : List Plain.Member)

inductive Plain.Member where
  | mk (key : Units) (value : Plain)
end

end ScriptedTask.Script
