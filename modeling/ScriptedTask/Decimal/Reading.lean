/-! Two ways to read a decimal as a double. `nearest` rounds once. `scaled` rounds the
leading digits first and then multiplies or divides by a rounded power of ten, which is
quick and may miss the nearest double by one in the last place. -/

namespace ScriptedTask.Decimal

def digitValue (c : Char) : Nat := c.toNat - '0'.toNat

def digitsValue (digits : List Char) : Nat := digits.foldl (fun value c => 10 * value + digitValue c) 0

def isFinite (number : Float) : Bool := number.toBits.toNat / 0x10000000000000 % 0x800 ≠ 2047

/-- The double nearest to `digits · 10 ^ exponent`, possibly infinite. The cut at both ends
keeps the exact arithmetic small: beyond them the answer is zero or infinite anyway. -/
def nearest (digits : Nat) (exponent : Int) : Float :=
  let leading := exponent + (Nat.toDigits 10 digits).length
  if digits = 0 ∨ leading < -330 then 0
  else if leading > 310 then 1 / 0
  else if exponent < 0 then Float.ofScientific digits true exponent.natAbs
  else Float.ofScientific digits false exponent.toNat

def powerOfTen (power : Nat) : Float := Float.ofScientific 1 false power

/-- Divides by the largest power of ten of the table until the exponent is within it. -/
def divideDown : Nat → Float → Nat → Float
  | 0, number, power => number / powerOfTen power
  | more + 1, number, power =>
    if power ≤ 308 then number / powerOfTen power
    else if number == 0 then number
    else divideDown more (number / powerOfTen 308) (power - 308)

/-- The rounded significand times or divided by a rounded power of ten; none if that overflows. -/
def scaled (significand : UInt64) (exponent : Int) : Option Float :=
  let number := significand.toFloat
  if 0 ≤ exponent then
    if exponent ≤ 308 then
      let product := number * powerOfTen exponent.toNat
      if isFinite product then some product else none
    else if significand = 0 then some number else none
  else some (divideDown 4 number exponent.natAbs)

/-- The leading digits that fit in 64 bits, and how many of the rest count as places. -/
structure Significand where
  value : Nat := 0
  exponent : Int := 0
deriving DecidableEq

def fits (value : Nat) : Bool := value < 0x10000000000000000

/-- Once a digit does not fit, no further digit before the point does. -/
def Significand.integerPart (number : Significand) : List Char → Significand
  | [] => number
  | digit :: rest =>
    let longer := 10 * number.value + digitValue digit
    if fits longer then integerPart { number with value := longer } rest
    else { number with exponent := number.exponent + (rest.length + 1) }

/-- Digits after the point count until one does not fit. -/
def Significand.fraction (number : Significand) : List Char → Significand
  | [] => number
  | digit :: rest =>
    let longer := 10 * number.value + digitValue digit
    if fits longer then fraction ⟨longer, number.exponent - 1⟩ rest else number

end ScriptedTask.Decimal
