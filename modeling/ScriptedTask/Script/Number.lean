import ScriptedTask.Decimal.Layout
import ScriptedTask.Decimal.Reading
import ScriptedTask.Text.Units

/-! Numbers of scripts. All of them are doubles; those that are whole, not minus zero and
below 2^53 in magnitude are kept as integers, on which arithmetic is exact. `ofFloat` and
`ofInt` choose the representation, so each number has one. -/

namespace ScriptedTask.Script

inductive Num where
  | int (value : Int)
  | real (value : Float)

namespace Num

def isSafe (value : Int) : Bool := -0x20000000000000 < value && value < 0x20000000000000

def nan : Num := .real (0.0 / 0.0)

def infinity : Num := .real (1.0 / 0.0)

instance : Inhabited Num := ⟨.int 0⟩

/-- The double closest to a whole number. -/
def ofInt (value : Int) : Num := if isSafe value then .int value else .real (Float.ofInt value)

def isMinusZero (value : Float) : Bool := value.toBits.toNat == 0x8000000000000000

def ofFloat (value : Float) : Num :=
  let truncated := value.toInt64.toInt
  if isSafe truncated && Float.ofInt truncated == value && !isMinusZero value then .int truncated
  else .real value

def toFloat : Num → Float
  | .int value => Float.ofInt value
  | .real value => value

def isNaN : Num → Bool
  | .int _ => false
  | .real value => value.isNaN

def isFinite : Num → Bool
  | .int _ => true
  | .real value => Decimal.isFinite value

/-- The magnitude of a finite double as a whole number times a power of two. -/
def binary (value : Float) : Nat × Int :=
  let number := Decimal.Binary.ofBits value.toBits
  (number.mantissa, number.exponent)

def isNegative (value : Float) : Bool := 0x8000000000000000 ≤ value.toBits.toNat

/-- The whole part; zero for numbers that are not finite. -/
def truncate : Num → Int
  | .int value => value
  | .real value =>
    if Decimal.isFinite value then
      let (mantissa, exponent) := binary value
      let magnitude :=
        if 0 ≤ exponent then mantissa * Nat.pow 2 exponent.toNat else mantissa / Nat.pow 2 (-exponent).toNat
      if isNegative value then -(magnitude : Int) else magnitude
    else 0

/-- The whole part modulo 2^32. -/
def toUInt32 (number : Num) : UInt32 := UInt32.ofNat (number.truncate % 0x100000000).toNat

def ofUInt32 (word : UInt32) : Num := .int word.toNat

/-- A word read as a signed number. -/
def ofSigned (word : UInt32) : Num := .int (if word.toNat < 0x80000000 then word.toNat else word.toNat - 0x100000000)

def neg : Num → Num
  | .int value => if value = 0 then .real (-0.0) else .int (-value)
  | .real value => ofFloat (-value)

def add : Num → Num → Num
  | .int left, .int right => ofInt (left + right)
  | left, right => ofFloat (left.toFloat + right.toFloat)

def sub : Num → Num → Num
  | .int left, .int right => ofInt (left - right)
  | left, right => ofFloat (left.toFloat - right.toFloat)

def mul : Num → Num → Num
  | .int left, .int right =>
    if left * right = 0 ∧ (left < 0 ∨ right < 0) then .real (-0.0) else ofInt (left * right)
  | left, right => ofFloat (left.toFloat * right.toFloat)

def div : Num → Num → Num
  | .int left, .int right =>
    if right ≠ 0 ∧ left % right = 0 ∧ left ≠ 0 then .int (left / right)
    else ofFloat (Float.ofInt left / Float.ofInt right)
  | left, right => ofFloat (left.toFloat / right.toFloat)

/-- The exact remainder, with the sign of the dividend. -/
def floatMod (left right : Float) : Float :=
  if left.isNaN || right.isNaN || !Decimal.isFinite left || right == 0 then 0.0 / 0.0
  else if !Decimal.isFinite right || left == 0 then left
  else
    let (leftMantissa, leftExponent) := binary left
    let (rightMantissa, rightExponent) := binary right
    let exponent := min leftExponent rightExponent
    let remainder := (leftMantissa * Nat.pow 2 (leftExponent - exponent).toNat) %
      (rightMantissa * Nat.pow 2 (rightExponent - exponent).toNat)
    let magnitude := (Float.ofNat remainder).scaleB exponent
    if isNegative left then -magnitude else magnitude

def mod : Num → Num → Num
  | .int left, .int right =>
    if right = 0 then nan
    else if Int.tmod left right = 0 ∧ left < 0 then .real (-0.0)
    else .int (Int.tmod left right)
  | left, right => ofFloat (floatMod left.toFloat right.toFloat)

/-- Powers; one to an infinite power is undefined. -/
def pow (base exponent : Num) : Num :=
  let power := exponent.toFloat
  if power.isNaN then nan
  else if !Decimal.isFinite power && (base.toFloat == 1 || base.toFloat == -1) then nan
  else ofFloat (base.toFloat ^ power)

def lt : Num → Num → Bool
  | .int left, .int right => left < right
  | left, right => left.toFloat < right.toFloat

/-- Numeric equality; an undefined number differs from itself. -/
def eq : Num → Num → Bool
  | .int left, .int right => left == right
  | left, right => left.toFloat == right.toFloat

def isZero (number : Num) : Bool := number.eq (.int 0)

/-- The point stays in place from 1e-6 up to 21 digits. -/
def layout : Decimal.Layout := ⟨-6, 20, false⟩

def text : Num → List Char
  | .int value => if value < 0 then '-' :: Nat.toDigits 10 value.natAbs else Nat.toDigits 10 value.toNat
  | .real value =>
    if value.isNaN then "NaN".toList
    else if !Decimal.isFinite value then (if isNegative value then "-Infinity" else "Infinity").toList
    else if value == 0 then ['0']
    else Decimal.writeFloat layout value

def digitText (value : Nat) : Char := if value < 10 then Char.ofNat (48 + value) else Char.ofNat (87 + value)

/-- The digits of a whole number, most significant first. -/
def wholeDigits (base : Nat) : Nat → Nat → List Char → List Char
  | 0, _, done => done
  | fuel + 1, value, done =>
    if value < base then digitText value :: done
    else wholeDigits base fuel (value / base) (digitText (value % base) :: done)

/-- The digits of `numerator / denominator` after the point, until nothing is left. -/
def fractionDigits (base : Nat) : Nat → Nat → Nat → List Char
  | 0, _, _ => []
  | fuel + 1, numerator, denominator =>
    if numerator = 0 then []
    else digitText (numerator * base / denominator) ::
      fractionDigits base fuel (numerator * base % denominator) denominator

def textIn (base : Nat) (number : Num) : List Char :=
  if base = 10 ∨ !number.isFinite then number.text
  else
    let value := number.toFloat
    let (mantissa, exponent) := binary value
    let denominator := Nat.pow 2 (-exponent).toNat
    let numerator := mantissa * Nat.pow 2 exponent.toNat
    let whole := wholeDigits base 1100 (numerator / denominator) []
    let fraction := fractionDigits base 52 (numerator % denominator) denominator
    (if value < 0 then ['-'] else []) ++ whole ++ if fraction.isEmpty then [] else '.' :: fraction

/-- A number rounded to `places` places after the point, a half away from zero. -/
def fixedText (places : Nat) (number : Num) : List Char :=
  if !number.isFinite ∨ !(number.toFloat.abs < 1e21) then number.text
  else
    let value := number.toFloat
    let (mantissa, exponent) := binary value
    let denominator := Nat.pow 2 (-exponent).toNat
    let scaled := mantissa * Nat.pow 2 exponent.toNat * Nat.pow 10 places
    let rounded := (2 * scaled + denominator) / (2 * denominator)
    let digits := Nat.toDigits 10 rounded
    let padded := List.replicate (places + 1 - digits.length) '0' ++ digits
    let whole := padded.take (padded.length - places)
    let sign := if value < 0 ∧ rounded ≠ 0 then ['-'] else []
    sign ++ whole ++ if places = 0 then [] else '.' :: padded.drop (padded.length - places)

/-- The digit values of a text that starts with digits of the base, and what follows them. -/
def digitValue? (base : Nat) (c : Char) : Option Nat :=
  let value := if c.isDigit then c.toNat - 48 else if 'a' ≤ c ∧ c ≤ 'z' then c.toNat - 87
    else if 'A' ≤ c ∧ c ≤ 'Z' then c.toNat - 55 else 99
  if value < base then some value else none

def isDigitOf (base : Nat) (c : Char) : Bool := (digitValue? base c).isSome

def valueIn (base : Nat) (digits : List Char) : Nat :=
  digits.foldl (fun value c => value * base + (digitValue? base c).getD 0) 0

/-- The number closest to `digits · 10 ^ exponent`. A whole number below 2^53 is one of them. -/
def ofDecimal (digits : Nat) (exponent : Int) : Num :=
  if exponent = 0 ∧ isSafe digits then .int digits else ofFloat (Decimal.nearest digits exponent)

/-- A decimal number at the front of a text, without sign: digits, a fraction, an exponent. -/
def readDecimal (text : List Char) : Option (Num × List Char) :=
  let whole := text.takeWhile Char.isDigit
  let rest := text.dropWhile Char.isDigit
  let (fraction, rest) := match rest with
    | '.' :: after => (after.takeWhile Char.isDigit, after.dropWhile Char.isDigit)
    | _ => ([], rest)
  if whole.isEmpty ∧ fraction.isEmpty then none
  else
    let exponentAfter := fun (negative : Bool) (after : List Char) =>
      match after.takeWhile Char.isDigit with
      | [] => none
      | digits => some (negative, digits, after.dropWhile Char.isDigit)
    let exponent := match rest with
      | 'e' :: '-' :: after | 'E' :: '-' :: after => exponentAfter true after
      | 'e' :: '+' :: after | 'E' :: '+' :: after => exponentAfter false after
      | 'e' :: after | 'E' :: after => exponentAfter false after
      | _ => none
    let (power, rest) : Int × List Char := match exponent with
      | some (negative, digits, after) =>
        let magnitude : Int := Decimal.digitsValue digits
        (if negative then -magnitude else magnitude, after)
      | none => (0, rest)
    let digits := Decimal.digitsValue (whole ++ fraction)
    some (ofDecimal digits (power - fraction.length), rest)

end Num
end ScriptedTask.Script
