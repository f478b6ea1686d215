import ScriptedTask.Script.Builtin.Basic

/-! Functions on numbers and truth values, and reading numbers from text. -/

namespace ScriptedTask.Script

open Text (Units)

namespace Eval

/-- The number that a method works on. -/
def ownNumber (invocation : Invocation) : Eval Num := do
  match invocation.this with
  | .number number => return number
  | .object id =>
    match (← look fun heap => heap.object id).kind with
    | .boxed (.number number) => return number
    | _ => raiseType "not a number"
  | _ => raiseType "not a number"

def textOfNumber (text : List Char) : Value := .text (Units.encode text).toArray

def numberText (invocation : Invocation) : Eval Value := do
  let number ← ownNumber invocation
  match invocation.given? 0 with
  | none => return textOfNumber number.text
  | some base =>
    let base ← toInteger base
    if base < 2 || 36 < base then raiseRange "toString() radix argument must be between 2 and 36"
    return textOfNumber (number.textIn base.toNat)

def numberFixed (invocation : Invocation) : Eval Value := do
  let number ← ownNumber invocation
  let places ← toInteger (invocation.argument 0)
  if places < 0 || 100 < places then raiseRange "toFixed() digits argument must be between 0 and 100"
  return textOfNumber (number.fixedText places.toNat)

def makeNumber (invocation : Invocation) : Eval Value := do
  let number ← match invocation.arguments with
    | [] => pure (Num.int 0)
    | value :: _ => toNumber value
  if invocation.isNew then return .object (← toObject (.number number)) else return .number number

/-! Reading numbers -/

def isLeadingBlank (c : Char) : Bool := (Text.isBlank c && c != '\x85') || c == '\ufeff'

/-- The characters of a text up to a surrogate that stands alone. -/
def leadingCharacters (units : Units) : List Char :=
  (Units.spell units.toList).takeWhile (fun | .inl _ => true | .inr _ => false) |>.filterMap fun
    | .inl c => some c
    | .inr _ => none

/-- A sign and what follows it. -/
def signAndRest : List Char → Bool × List Char
  | '-' :: rest => (true, rest)
  | '+' :: rest => (false, rest)
  | rest => (false, rest)

def withSign (negative : Bool) (number : Num) : Num := if negative then number.neg else number

/-- The base and the digits of a whole number; without a base, sixteen is recognised. -/
def baseAndRest (base : Nat) : List Char → Nat × List Char
  | '0' :: 'x' :: rest | '0' :: 'X' :: rest =>
    if base = 0 ∨ base = 16 then (16, rest) else (base, '0' :: 'x' :: rest)
  | rest => (if base = 0 then 10 else base, rest)

def parseWhole (invocation : Invocation) : Eval Value := do
  let text := (leadingCharacters (← toText (invocation.argument 0))).dropWhile isLeadingBlank
  let base ← toNumber (invocation.argument 1)
  let base := (Num.ofSigned base.toUInt32).truncate
  let (negative, rest) := signAndRest text
  if base ≠ 0 ∧ (base < 2 ∨ 36 < base) then return .number Num.nan
  let (base, rest) := baseAndRest base.toNat rest
  match rest.takeWhile (Num.isDigitOf base) with
  | [] => return .number Num.nan
  | digits => return .number (withSign negative (Num.ofInt (Num.valueIn base digits)))

def parseDecimal (invocation : Invocation) : Eval Value := do
  let text := (leadingCharacters (← toText (invocation.argument 0))).dropWhile isLeadingBlank
  let (negative, rest) := signAndRest text
  if "Infinity".toList.isPrefixOf rest then return .number (withSign negative Num.infinity)
  match Num.readDecimal rest with
  | some (number, _) => return .number (withSign negative number)
  | none => return .number Num.nan

/-! Tests -/

def isWhole : Num → Bool
  | .int _ => true
  | .real value => Decimal.isFinite value && Float.ofInt (Num.real value).truncate == value

def isSafe : Num → Bool
  | .int _ => true
  | .real value => value == 0

/-- A test of an argument that is a number; all else fails it. -/
def ofNumber (test : Num → Bool) (invocation : Invocation) : Eval Value :=
  match invocation.argument 0 with
  | .number number => return .bool (test number)
  | _ => return .bool false

def converted (test : Num → Bool) (invocation : Invocation) : Eval Value := do
  return .bool (test (← toNumber (invocation.argument 0)))

/-! Truth values -/

def truthValue (invocation : Invocation) : Eval Bool := do
  match invocation.this with
  | .bool value => return value
  | .object id =>
    match (← look fun heap => heap.object id).kind with
    | .boxed (.bool value) => return value
    | _ => raiseType "not a boolean"
  | _ => raiseType "not a boolean"

def makeTruth (invocation : Invocation) : Eval Value := do
  let value := Value.bool (invocation.argument 0).truthy
  if invocation.isNew then return .object (← toObject value) else return value

def numberConstructor : Builtin := ⟨Place.globals, "Number", 1, makeNumber, some Place.numberParent⟩

def truthConstructor : Builtin := ⟨Place.globals, "Boolean", 1, makeTruth, some Place.booleanParent⟩

def numberBuiltins : List Builtin := [
  ⟨Place.numberParent, "toString", 1, numberText, none⟩,
  ⟨Place.numberParent, "toLocaleString", 0,
    fun invocation => do return textOfNumber (← ownNumber invocation).text, none⟩,
  ⟨Place.numberParent, "toFixed", 1, numberFixed, none⟩,
  ⟨Place.numberParent, "valueOf", 0, fun invocation => do return .number (← ownNumber invocation), none⟩,
  ⟨Place.numberFunction, "isInteger", 1, ofNumber isWhole, none⟩,
  ⟨Place.numberFunction, "isSafeInteger", 1, ofNumber isSafe, none⟩,
  ⟨Place.numberFunction, "isFinite", 1, ofNumber Num.isFinite, none⟩,
  ⟨Place.numberFunction, "isNaN", 1, ofNumber Num.isNaN, none⟩,
  ⟨Place.numberFunction, "parseInt", 2, parseWhole, none⟩,
  ⟨Place.numberFunction, "parseFloat", 1, parseDecimal, none⟩,
  ⟨Place.globals, "parseInt", 2, parseWhole, none⟩,
  ⟨Place.globals, "parseFloat", 1, parseDecimal, none⟩,
  ⟨Place.globals, "isNaN", 1, converted Num.isNaN, none⟩,
  ⟨Place.globals, "isFinite", 1, converted Num.isFinite, none⟩,
  ⟨Place.booleanParent, "toString", 0,
    fun invocation => do return .ascii (if ← truthValue invocation then "true" else "false"), none⟩,
  ⟨Place.booleanParent, "valueOf", 0, fun invocation => do return .bool (← truthValue invocation), none⟩]

/-! Mathematics -/

def onFloat (name : String) (f : Float → Float) : Builtin :=
  ⟨Place.math, name, 1, fun invocation => do
    return .number (Num.ofFloat (f (← toNumber (invocation.argument 0)).toFloat)), none⟩

/-- The closest whole number; a half goes up. -/
def roundHalfUp (value : Float) : Float :=
  if !(value.abs < 4503599627370496.0) then value
  else
    let down := value.floor
    let rounded := if value - down < 0.5 then down else down + 1
    if rounded == 0 && (value < 0 || Num.isMinusZero value) then -0.0 else rounded

def signOf (value : Float) : Float := if 0 < value then 1 else if value < 0 then -1 else value

def cutOff (value : Float) : Float := if value < 0 then value.ceil else value.floor

/-- The larger of two numbers, or the smaller; minus zero is below zero. -/
def extreme (larger : Bool) (left right : Num) : Num :=
  if left.isNaN || right.isNaN then Num.nan
  else if left.isZero && right.isZero then
    if Num.isMinusZero left.toFloat == larger then right else left
  else if left.lt right == larger then right else left

def extremeOf (larger : Bool) (invocation : Invocation) : Eval Value := do
  let numbers ← invocation.arguments.mapM toNumber
  return .number (numbers.foldl (extreme larger) (if larger then Num.infinity.neg else Num.infinity))

def power (invocation : Invocation) : Eval Value := do
  let base ← toNumber (invocation.argument 0)
  return .number (base.pow (← toNumber (invocation.argument 1)))

def mathBuiltins : List Builtin := [
  onFloat "abs" Float.abs, onFloat "ceil" Float.ceil, onFloat "floor" Float.floor, onFloat "round" roundHalfUp,
  onFloat "trunc" cutOff, onFloat "sign" signOf, onFloat "sqrt" Float.sqrt, onFloat "cbrt" Float.cbrt,
  onFloat "exp" Float.exp, onFloat "log" Float.log, onFloat "log2" Float.log2, onFloat "log10" Float.log10,
  onFloat "sin" Float.sin, onFloat "cos" Float.cos, onFloat "tan" Float.tan, onFloat "atan" Float.atan,
  onFloat "asin" Float.asin, onFloat "acos" Float.acos,
  ⟨Place.math, "max", 2, extremeOf true, none⟩, ⟨Place.math, "min", 2, extremeOf false, none⟩,
  ⟨Place.math, "pow", 2, power, none⟩]

/-- Numbers that have names, with the object that holds them. -/
def namedNumbers : List (Nat × String × Num) := [
  (Place.globals, "NaN", Num.nan), (Place.globals, "Infinity", Num.infinity),
  (Place.numberFunction, "NaN", Num.nan), (Place.numberFunction, "POSITIVE_INFINITY", Num.infinity),
  (Place.numberFunction, "NEGATIVE_INFINITY", Num.infinity.neg),
  (Place.numberFunction, "MAX_SAFE_INTEGER", .int 9007199254740991),
  (Place.numberFunction, "MIN_SAFE_INTEGER", .int (-9007199254740991)),
  (Place.numberFunction, "MAX_VALUE", .real (Float.ofScientific 17976931348623157 false 292)),
  (Place.numberFunction, "MIN_VALUE", .real (Float.ofScientific 5 true 324)),
  (Place.numberFunction, "EPSILON", .real (Float.ofScientific 2220446049250313 true 31)),
  (Place.math, "PI", .real 3.141592653589793), (Place.math, "E", .real 2.718281828459045),
  (Place.math, "LN2", .real 0.6931471805599453), (Place.math, "LN10", .real 2.302585092994046),
  (Place.math, "SQRT2", .real 1.4142135623730951)]

end Eval
end ScriptedTask.Script
