import ScriptedTask.Json.Basic

/-! Scripts arrive in fragments: string inputs whose names start with the word of a phase. The
script of a phase is its fragments joined in ascending order of their full names. -/

namespace ScriptedTask

/-- Scripts run before and after the handler. -/
inductive Phase where
  | pre
  | post
deriving DecidableEq

def Phase.word : Phase → String
  | .pre => "prescript"
  | .post => "postscript"

namespace Fragment

def belongsTo (phase : Phase) (name : String) : Bool := phase.word.toList.isPrefixOf name.toList

/-- The name is reserved for fragments of either phase. -/
def isReserved (name : String) : Bool := belongsTo .pre name || belongsTo .post name

/-- The text of an input if it is a fragment of the phase. -/
def text? (phase : Phase) (name : String) (value : Json) : Option String :=
  match value with
  | .string text => if belongsTo phase name then some text else none
  | _ => none

/-- The script of a phase. -/
def assemble (inputs : Values) (phase : Phase) : String :=
  String.join (inputs.toList.filterMap fun entry => text? phase entry.1 entry.2)

/-- The inputs whose names are not reserved, which is what scripts see. -/
def strip (inputs : Values) : Values := inputs.filter fun name _ => !isReserved name

end Fragment
end ScriptedTask
