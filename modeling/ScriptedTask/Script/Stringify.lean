import ScriptedTask.Script.Conversion

/-! The JSON text of a script's value. Objects may answer for themselves through a method, a
function may replace values, and what has no text is left out of objects. -/

namespace ScriptedTask.Script

open Text (Units)

/-- How a text is laid out and what goes into it. -/
structure TextStyle where
  indent : Units := #[]
  replace : Option Value := none
  /-- The only keys that are written, if they are given. -/
  keys : Option (List Units) := none

namespace Eval

def hexUnits (unit : UInt16) : List UInt16 :=
  let digits := Nat.toDigits 16 unit.toNat
  (List.replicate (4 - digits.length) '0' ++ digits).map fun c => UInt16.ofNat c.toNat

def unicodeEscape (unit : UInt16) : List UInt16 := 92 :: 117 :: hexUnits unit

def escapeUnit (unit : UInt16) : List UInt16 :=
  if unit = 34 then [92, 34]
  else if unit = 92 then [92, 92]
  else if unit = 8 then [92, 98]
  else if unit = 9 then [92, 116]
  else if unit = 10 then [92, 110]
  else if unit = 12 then [92, 102]
  else if unit = 13 then [92, 114]
  else if unit < 32 then unicodeEscape unit
  else [unit]

/-- Characters are escaped where JSON demands it, surrogates where they stand alone. -/
def quoteBody : List (Char ⊕ UInt16) → List UInt16
  | [] => []
  | .inl c :: rest => (Units.ofChar c).flatMap escapeUnit ++ quoteBody rest
  | .inr unit :: rest => unicodeEscape unit ++ quoteBody rest

def quote (units : Units) : Units := (34 :: quoteBody (Units.spell units.toList) ++ [34]).toArray

/-- What an object says in its own place. -/
def answerOf (key : Units) (value : Value) : Eval Value := do
  if !value.isObject then return value
  let method ← get value (Units.ofAscii "toJSON")
  if ← look fun heap => heap.isFunction method then call method value [.text key] else return value

def replaced (style : TextStyle) (holder : Value) (key : Units) (value : Value) : Eval Value :=
  match style.replace with
  | some function => call function holder [.text key, value]
  | none => return value

/-- The value that a boxed value stands for. -/
def unboxed (value : Value) : Eval Value := do
  match value with
  | .object id =>
    match (← look fun heap => heap.object id).kind with
    | .boxed (.number _) => return .number (← toNumber value)
    | .boxed (.text _) => return .text (← toText value)
    | .boxed inner => return inner
    | _ => return value
  | _ => return value

/-- The text of a value that is no object; none if it has none. -/
def scalarText? : Value → Option Units
  | .null => some (Units.ofAscii "null")
  | .bool value => some (Units.ofAscii (if value then "true" else "false"))
  | .number value => some (if value.isFinite then (Units.encode value.text).toArray else Units.ofAscii "null")
  | .text units => some (quote units)
  | .undefined | .object _ => none

def breakLine (indent : Units) : Units := #[10] ++ indent

/-- Parts between brackets, each on a line of its own if there is an indentation. -/
def bracketed (style : TextStyle) (outer inner : Units) (opening closing : UInt16) (parts : List Units) : Units :=
  if parts.isEmpty then #[opening, closing]
  else if style.indent.isEmpty then
    parts.tail.foldl (fun text part => text.push 44 ++ part) (#[opening] ++ parts.headD #[]) |>.push closing
  else
    (parts.tail.foldl (fun text part => (text.push 44 ++ breakLine inner) ++ part)
      ((#[opening] ++ breakLine inner) ++ parts.headD #[]) ++ breakLine outer).push closing

/-- The texts of items; an item without text is written as null. `done` are those written, last
first. -/
def itemTexts (write : Value → Units → Value → Eval (Option Units)) (holder : Value) (done : List Units) :
    List Nat → Eval (List Units)
  | [] => return done.reverse
  | index :: rest => do
    let text ← write holder (indexKey index) (← getItem holder index)
    itemTexts write holder (text.getD (Units.ofAscii "null") :: done) rest

/-- The texts of members with their keys; a member without text is left out. -/
def memberTexts (write : Value → Units → Value → Eval (Option Units)) (style : TextStyle) (holder : Value)
    (done : List Units) : List Units → Eval (List Units)
  | [] => return done.reverse
  | key :: rest => do
    match ← write holder key (← get holder key) with
    | some text =>
      let colon : Units := if style.indent.isEmpty then #[58] else #[58, 32]
      memberTexts write style holder ((quote key ++ colon ++ text) :: done) rest
    | none => memberTexts write style holder done rest

/-- The text of a member of `holder`. Objects that are being written around it are in `around`. -/
def writeValue (style : TextStyle) : Nat → List Nat → Units → Value → Units → Value → Eval (Option Units)
  | 0, _, _, _, _, _ => raiseRange "Maximum call stack size exceeded"
  | fuel + 1, around, indent, holder, key, value => do
    spend 1
    let value ← unboxed (← replaced style holder key (← answerOf key value))
    match value with
    | .object id =>
      let object ← look fun heap => heap.object id
      if object.isFunction then return none
      if around.contains id then raiseType "circular reference"
      let inner := indent ++ style.indent
      let write := writeValue style fuel (id :: around) inner
      match object.kind with
      | .array .. =>
        let length ← lengthOf value
        spend length
        return some (bracketed style indent inner 91 93 (← itemTexts write value [] (List.range length)))
      | _ =>
        let keys := style.keys.getD (object.ownKeys.filter object.isEnumerable)
        return some (bracketed style indent inner 123 125 (← memberTexts write style value [] keys))
    | scalar => return scalarText? scalar

/-- Objects may nest this deep in a text. -/
def deepestText : Nat := 2000

/-- The JSON text of a value, if it has one. -/
def stringify (style : TextStyle) (value : Value) : Eval (Option Units) := do
  let holder ← match style.replace with
    | some _ => do
      let id ← newObject { parent := some Place.objectParent }
      define id #[] value
      pure (Value.object id)
    | none => pure .undefined
  writeValue style deepestText [] #[] holder #[] value

end Eval
end ScriptedTask.Script
