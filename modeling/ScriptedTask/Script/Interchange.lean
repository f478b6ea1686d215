import ScriptedTask.Json.Parser
import ScriptedTask.Json.Printer
import ScriptedTask.Script.PlainText
import ScriptedTask.Script.Stringify

/-! Values across the border of a script, which they cross as JSON text. On the way in the
surroundings print and the script reads; on the way out the script prints, and the surroundings
read by their own rules. -/

namespace ScriptedTask.Script

open Text (Units)

namespace Eval

mutual
/-- Makes plain data a value of the script. -/
def load : Plain → Eval Value
  | .null => return .null
  | .bool value => return .bool value
  | .number value => return .number value
  | .text units => return .text units
  | .list items => do newArray (← loadItems [] items)
  | .record members => do
    let id ← newObject { parent := some Place.objectParent }
    loadMembers id members
    return .object id

def loadItems (done : List Value) : List Plain → Eval (List Value)
  | [] => return done.reverse
  | item :: rest => do loadItems ((← load item) :: done) rest

/-- Of two members with one key the later one counts, in the place of the first. -/
def loadMembers (id : Nat) : List Plain.Member → Eval Unit
  | [] => return
  | .mk key value :: rest => do
    define id key (← load value)
    loadMembers id rest
end

/-- The value that a text spells. -/
def parse (text : Units) : Eval Value :=
  match Plain.read? text with
  | some plain => load plain
  | none => raiseError Place.syntaxErrorParent "unexpected token in JSON text"

/-- The value that comes in: its text, as scripts read it. -/
def ofJson (value : Json) : Eval Value := parse (Units.ofString value.text)

def describeCause : Json.ReadError → String
  | .malformed => "expected value"
  | .tooDeep => "recursion limit exceeded"
  | .unfinishedSurrogate => "unexpected end of hex escape"
  | .loneSurrogate => "lone leading surrogate in hex escape"
  | .outOfRange => "number out of range"

/-- Why a text cannot be read outside, and where. -/
def describe (failure : Json.Failure) (text : List Char) : String :=
  let (line, column) := failure.position text
  describeCause failure.cause ++ " at line " ++ toString line ++ " column " ++ toString column

/-- The value that goes out; nothing if the script's value has no text. -/
def toJson (value : Value) : Eval (Option Json) := do
  match value with
  | .undefined => return none
  | _ =>
    match ← stringify {} value with
    | none => return none
    | some units =>
      let text := (Units.decode? units.toList).getD []
      match Json.readWithin Json.nestingLimit text with
      | .ok found => return some found
      | .error failure => raiseType ("value is not representable as JSON: " ++ describe failure text)

def toJsonAll : List Value → Eval (List (Option Json))
  | [] => return []
  | value :: rest => do
    let found ← toJson value
    return found :: (← toJsonAll rest)

end Eval
end ScriptedTask.Script
