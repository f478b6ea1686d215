import ScriptedTask.Decimal.Reading
import ScriptedTask.Json.Basic

/-! The value of a number's text. Without fraction and exponent a number that fits in 64 bits
is whole; everything else is a float, read from the leading digits that fit in 64 bits. -/

namespace ScriptedTask.Json

/-- The parts of a number's text. The exponent is a sign, true for minus, and digits. -/
structure Lexeme where
  negative : Bool
  whole : List Char
  fraction : Option (List Char)
  exponent : Option (Bool × List Char)

def signed (negative : Bool) (number : Float) : Float := if negative then -number else number

/-- The leading digits of the text, before the exponent is applied. -/
def Lexeme.significand (lexeme : Lexeme) : Decimal.Significand :=
  let whole := Decimal.Significand.integerPart {} lexeme.whole
  whole.fraction (lexeme.fraction.getD [])

/-- The float of a number's text; none if it is too large. -/
def Lexeme.float? (lexeme : Lexeme) : Option Float :=
  let number := lexeme.significand
  let bits := UInt64.ofNat number.value
  (match lexeme.exponent with
    | none => Decimal.scaled bits number.exponent
    | some (negative, digits) =>
      let power : Int := Decimal.digitsValue digits
      if power < 0x80000000 then Decimal.scaled bits (number.exponent + if negative then -power else power)
      else if negative ∨ number.value = 0 then some 0
      else none).map (signed lexeme.negative)

/-- A whole number keeps its exact value unless it is out of range or minus zero. -/
def Lexeme.value? (lexeme : Lexeme) : Option Json :=
  match lexeme.fraction, lexeme.exponent with
  | none, none =>
    let magnitude := Decimal.digitsValue lexeme.whole
    let value : Int := if lexeme.negative then -(magnitude : Int) else magnitude
    if inRange : InRange value then
      if lexeme.negative ∧ magnitude = 0 then some (.float (-0.0)) else some (.integer value inRange)
    else lexeme.float?.map .float
  | _, _ => lexeme.float?.map .float

end ScriptedTask.Json
