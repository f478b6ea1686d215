import ScriptedTask.Script.Plain

/-! Reading plain data from JSON text as scripts do: by units, without limits on nesting or on
the size of numbers. -/

namespace ScriptedTask.Script

open Text (Units)

namespace PlainText

abbrev Reader (α : Type) := List UInt16 → Option (α × List UInt16)

def isSpace (unit : UInt16) : Bool := unit == 32 || unit == 9 || unit == 10 || unit == 13

def skipSpace (text : List UInt16) : List UInt16 := text.dropWhile isSpace

def charOf (unit : UInt16) : Char := if unit < 128 then Char.ofNat unit.toNat else '\ufffd'

def escaped? (unit : UInt16) : Option UInt16 :=
  match charOf unit with
  | '"' | '\\' | '/' => some unit
  | 'b' => some 8
  | 'f' => some 12
  | 'n' => some 10
  | 'r' => some 13
  | 't' => some 9
  | _ => none

def hexUnit? (digits : List UInt16) : Option UInt16 :=
  let digits := digits.map charOf
  if digits.length = 4 ∧ digits.all (Num.isDigitOf 16) then some (UInt16.ofNat (Num.valueIn 16 digits)) else none

/-- A string after its opening quote. -/
def stringBody : Nat → Units → Reader Units
  | 0, _, _ => none
  | fuel + 1, done, text =>
    match text with
    | [] => none
    | 34 :: rest => some (done, rest)
    | 92 :: 117 :: rest =>
      match hexUnit? (rest.take 4) with
      | some unit => stringBody fuel (done.push unit) (rest.drop 4)
      | none => none
    | 92 :: unit :: rest =>
      match escaped? unit with
      | some found => stringBody fuel (done.push found) rest
      | none => none
    | unit :: rest => if unit < 32 then none else stringBody fuel (done.push unit) rest

/-- A digit, a sign, a point or the mark of an exponent. -/
def isNumeric (unit : UInt16) : Bool :=
  (48 ≤ unit && unit ≤ 57) || unit == 43 || unit == 45 || unit == 46 || unit == 101 || unit == 69

/-- The number that all the characters spell, without sign: no leading zero, and digits around a point
and after an exponent. -/
def unsigned? (characters : List Char) : Option Num :=
  let whole := characters.takeWhile Char.isDigit
  let afterPoint := (characters.drop whole.length).head? == some '.' &&
    !((characters.drop (whole.length + 1)).headD 'x').isDigit
  if whole.isEmpty || (1 < whole.length && whole.head? == some '0') || afterPoint then none
  else
    match Num.readDecimal characters with
    | some (value, []) => some value
    | _ => none

def signed? (characters : List Char) : Option Num :=
  match characters with
  | '-' :: rest => (unsigned? rest).map Num.neg
  | _ => unsigned? characters

def number : Reader Plain := fun text =>
  let characters := (text.takeWhile isNumeric).map charOf
  (signed? characters).map fun value => (.number value, text.drop characters.length)

/-- Items after the opening bracket, at least one. -/
def items (item : Reader Plain) : Nat → List Plain → Reader (List Plain)
  | 0, _, _ => none
  | fuel + 1, done, text => do
    let (read, rest) ← item text
    match skipSpace rest with
    | 44 :: rest => items item fuel (read :: done) rest
    | 93 :: rest => some ((read :: done).reverse, rest)
    | _ => none

def memberName (fuel : Nat) : Reader Units := fun text =>
  match skipSpace text with
  | 34 :: rest => do
    let (name, rest) ← stringBody fuel #[] rest
    match skipSpace rest with
    | 58 :: rest => some (name, rest)
    | _ => none
  | _ => none

def members (item : Reader Plain) : Nat → List Plain.Member → Reader (List Plain.Member)
  | 0, _, _ => none
  | fuel + 1, done, text => do
    let (name, rest) ← memberName (fuel + 1) text
    let (read, rest) ← item rest
    match skipSpace rest with
    | 44 :: rest => members item fuel (.mk name read :: done) rest
    | 125 :: rest => some ((.mk name read :: done).reverse, rest)
    | _ => none

def word (spelling : String) (value : Plain) : Reader Plain := fun text =>
  let units := (Units.ofAscii spelling).toList
  if units.isPrefixOf text then some (value, text.drop units.length) else none

/-- A value with at most `depth` lists and records around one another. -/
def value : Nat → Reader Plain
  | 0, _ => none
  | depth + 1, text =>
    match skipSpace text with
    | 34 :: rest => (stringBody rest.length #[] rest).map fun (units, rest) => (.text units, rest)
    | 91 :: rest =>
      match skipSpace rest with
      | 93 :: rest => some (.list [], rest)
      | rest => (items (value depth) rest.length [] rest).map fun (read, rest) => (.list read, rest)
    | 123 :: rest =>
      match skipSpace rest with
      | 125 :: rest => some (.record [], rest)
      | rest => (members (value depth) rest.length [] rest).map fun (read, rest) => (.record read, rest)
    | 110 :: rest => word "null" .null (110 :: rest)
    | 116 :: rest => word "true" (.bool true) (116 :: rest)
    | 102 :: rest => word "false" (.bool false) (102 :: rest)
    | rest => number rest

end PlainText

/-- The value that a whole text spells. -/
def Plain.read? (text : Units) : Option Plain := do
  let (read, rest) ← PlainText.value (text.size + 1) text.toList
  if (PlainText.skipSpace rest).isEmpty then some read else none

end ScriptedTask.Script
