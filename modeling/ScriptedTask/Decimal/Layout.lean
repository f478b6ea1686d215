import ScriptedTask.Decimal.Shortest

/-! How a decimal is written out: with a point in place, or with one digit before the point
and an exponent. A layout says from which to which leading place the point stays in place,
and whether a whole number keeps a fraction. -/

namespace ScriptedTask.Decimal

structure Layout where
  firstPlain : Int
  lastPlain : Int
  keepsFraction : Bool

def zeros (count : Nat) : List Char := List.replicate count '0'

def exponentText (place : Int) : List Char :=
  (if place < 0 then ['e', '-'] else ['e', '+']) ++ Nat.toDigits 10 place.natAbs

/-- A positive decimal. -/
def Digits.write (layout : Layout) (number : Digits) : List Char :=
  let digits := Nat.toDigits 10 number.digits
  let leading := number.exponent + digits.length - 1
  if layout.firstPlain ≤ leading ∧ leading ≤ layout.lastPlain then
    if 0 ≤ number.exponent then
      digits ++ zeros number.exponent.toNat ++ if layout.keepsFraction then ['.', '0'] else []
    else if 0 ≤ leading then
      digits.take (leading.toNat + 1) ++ '.' :: digits.drop (leading.toNat + 1)
    else '0' :: '.' :: zeros ((-leading).toNat - 1) ++ digits
  else
    match digits with
    | [digit] => digit :: exponentText leading
    | digit :: rest => digit :: '.' :: rest ++ exponentText leading
    | [] => []

/-- A finite double: a sign, and the fewest digits that read back. -/
def writeFloat (layout : Layout) (number : Float) : List Char :=
  let bits := number.toBits
  let sign := if bits.toNat / 0x8000000000000000 = 1 then ['-'] else []
  if bits.toNat % 0x8000000000000000 = 0 then sign ++ (if layout.keepsFraction then ['0', '.', '0'] else ['0'])
  else sign ++ (Binary.ofBits bits).shortest.write layout

end ScriptedTask.Decimal
