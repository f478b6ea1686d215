import ScriptedTask.Script.Access

/-! Conversions between kinds of values, and the ways of comparing them. -/

namespace ScriptedTask.Script

open Text (Units)

namespace Value

def isObject : Value → Bool
  | .object _ => true
  | _ => false

def isNothing : Value → Bool
  | .undefined | .null => true
  | _ => false

def truthy : Value → Bool
  | .undefined | .null => false
  | .bool value => value
  | .number value => !(value.isZero || value.isNaN)
  | .text units => !units.isEmpty
  | .object _ => true

/-- Equality without conversions. -/
def same : Value → Value → Bool
  | .undefined, .undefined | .null, .null => true
  | .bool left, .bool right => left == right
  | .number left, .number right => left.eq right
  | .text left, .text right => left == right
  | .object left, .object right => left == right
  | _, _ => false

/-- Equality that takes an undefined number for equal to itself. -/
def alike (left right : Value) : Bool :=
  match left, right with
  | .number left, .number right => left.eq right || (left.isNaN && right.isNaN)
  | _, _ => left.same right

end Value

/-- The number that a whole text spells; blanks around it do not count, and nothing is zero. -/
def numberOfText (units : Units) : Num :=
  match Units.decode? units.toList with
  | none => Num.nan
  | some text =>
    let isSpace := fun c => (Text.isBlank c && c != '\x85') || c == '\ufeff'
    let trimmed := Text.dropTrailing isSpace (text.dropWhile isSpace)
    let based := fun (base : Nat) (digits : List Char) =>
      if digits.isEmpty || !digits.all (Num.isDigitOf base) then Num.nan else Num.ofInt (Num.valueIn base digits)
    let unsigned := fun (text : List Char) =>
      if text == "Infinity".toList then Num.infinity
      else match Num.readDecimal text with
        | some (value, []) => value
        | _ => Num.nan
    match trimmed with
    | [] => .int 0
    | '0' :: 'x' :: rest | '0' :: 'X' :: rest => based 16 rest
    | '0' :: 'o' :: rest | '0' :: 'O' :: rest => based 8 rest
    | '0' :: 'b' :: rest | '0' :: 'B' :: rest => based 2 rest
    | '-' :: rest => (unsigned rest).neg
    | '+' :: rest => unsigned rest
    | rest => unsigned rest

/-- What an object turns into when it is no object any more. -/
inductive Hint where
  | number
  | text

namespace Eval

def typeOf (heap : Heap) : Value → String
  | .undefined => "undefined"
  | .null => "object"
  | .bool _ => "boolean"
  | .number _ => "number"
  | .text _ => "string"
  | .object id => if (heap.object id).isFunction then "function" else "object"

/-- The first of the methods that hands back something else than an object. -/
def firstPrimitive (value : Value) : List String → Eval Value
  | [] => raiseType "toPrimitive"
  | name :: rest => do
    let method ← get value (Units.ofAscii name)
    if (← look fun heap => heap.isFunction method) then
      let result ← call method value []
      if result.isObject then firstPrimitive value rest else return result
    else firstPrimitive value rest

def toPrimitive (hint : Hint) (value : Value) : Eval Value :=
  match value, hint with
  | .object _, .number => firstPrimitive value ["valueOf", "toString"]
  | .object _, .text => firstPrimitive value ["toString", "valueOf"]
  | _, _ => return value

/-- The number of a value that is no object. -/
def numberOf : Value → Num
  | .undefined => Num.nan
  | .null => .int 0
  | .bool value => .int (if value then 1 else 0)
  | .number value => value
  | .text units => numberOfText units
  | .object _ => Num.nan

def toNumber (value : Value) : Eval Num :=
  match value with
  | .object _ => return numberOf (← toPrimitive .number value)
  | _ => return numberOf value

/-- The text of a value that is no object. -/
def textOf : Value → Units
  | .undefined => Units.ofAscii "undefined"
  | .null => Units.ofAscii "null"
  | .bool value => Units.ofAscii (if value then "true" else "false")
  | .number value => (Units.encode value.text).toArray
  | .text units => units
  | .object _ => #[]

def toText (value : Value) : Eval Units :=
  match value with
  | .object _ => return textOf (← toPrimitive .text value)
  | _ => return textOf value

def toKey (value : Value) : Eval Units := toText value

/-- The whole part of a number, kept within bounds that no position passes. -/
def clamp (number : Num) : Int :=
  match number with
  | .int value => value
  | .real value =>
    if value.isNaN then 0
    else if value < -9.0e15 then -0x20000000000000
    else if 9.0e15 < value then 0x20000000000000
    else number.truncate

/-- Assigns to a property. What an array takes for its length is made a number, and that twice. -/
def assign (target : Value) (key : Units) (value : Value) : Eval Unit := do
  match target, value with
  | .object _, .number _ => put target key value
  | .object id, _ =>
    if ← look fun heap => isArrayLength (heap.object id) key && !(heap.object id).frozen then
      let _ ← toNumber value
      put target key (.number (← toNumber value))
    else put target key value
  | _, _ => put target key value

def toInteger (value : Value) : Eval Int := return clamp (← toNumber value)

def toObject (value : Value) : Eval Nat := do
  match value with
  | .object id => return id
  | .undefined | .null => raiseType "Cannot convert undefined or null to object"
  | .text _ => newObject { kind := .boxed value, parent := some Place.stringParent }
  | .number _ => newObject { kind := .boxed value, parent := some Place.numberParent }
  | .bool _ => newObject { kind := .boxed value, parent := some Place.booleanParent }

/-- The length of something that is indexed like an array. -/
def lengthOf (value : Value) : Eval Nat := do
  match ← get value lengthKey with
  | .number (.int length) => return length.toNat
  | other => return (← toInteger other).toNat

/-! Comparing -/

/-- Equality of values that are no objects, by number if their kinds differ. -/
def loosely (left right : Value) : Bool :=
  match left, right with
  | .text left, .text right => left == right
  | _, _ => (numberOf left).eq (numberOf right)

def looseEqual (left right : Value) : Eval Bool := do
  match left, right with
  | .undefined, .undefined | .undefined, .null | .null, .undefined | .null, .null => return true
  | .undefined, _ | .null, _ | _, .undefined | _, .null => return false
  | .object one, .object other => return one == other
  | .object _, _ => return loosely (← toPrimitive .number left) right
  | _, .object _ => return loosely left (← toPrimitive .number right)
  | _, _ => return loosely left right

/-- Whether the left value comes before the right one; none if they cannot be compared. -/
def before (left right : Value) : Option Bool :=
  match left, right with
  | .text left, .text right => some (Units.lt left.toList right.toList)
  | _, _ =>
    let left := numberOf left
    let right := numberOf right
    if left.isNaN || right.isNaN then none else some (left.lt right)

end Eval
end ScriptedTask.Script
