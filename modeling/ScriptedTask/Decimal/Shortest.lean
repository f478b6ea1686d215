/-! The shortest decimal of a binary fraction. A finite double is `mantissa · 2 ^ exponent`;
the reals that round to it form an interval, and the shortest decimal is the first decimal
grid, from coarse to fine, with a point in that interval. All arithmetic is exact. -/

namespace ScriptedTask.Decimal

/-- The positive number `mantissa · 2 ^ exponent`. `narrow` says that the next smaller number
is only half as far away as the next larger one. -/
structure Binary where
  mantissa : Nat
  exponent : Int
  narrow : Bool

/-- The decimal `digits · 10 ^ exponent`. -/
structure Digits where
  digits : Nat
  exponent : Int
deriving DecidableEq

/-- The magnitude of a finite double other than zero. -/
def Binary.ofBits (bits : UInt64) : Binary :=
  let fraction : Nat := bits.toNat % 0x10000000000000
  let power : Nat := bits.toNat / 0x10000000000000 % 0x800
  if power = 0 then ⟨fraction, -1074, false⟩
  else ⟨0x10000000000000 + fraction, (power : Int) - 1075, fraction = 0 && power > 1⟩

/-- `base ^ power` above the line, or its inverse below it. -/
def above (base : Nat) (power : Int) : Nat := Nat.pow base power.toNat

def below (base : Nat) (power : Int) : Nat := Nat.pow base (-power).toNat

/-- Four times the two ends of the interval and the number itself, in units of a quarter of
the last place. -/
def Binary.lowEnd (number : Binary) : Nat := 4 * number.mantissa - if number.narrow then 1 else 2

def Binary.highEnd (number : Binary) : Nat := 4 * number.mantissa + 2

/-- `digits · 10 ^ place` compared with `quarters · 2 ^ (exponent - 2)`, over one denominator. -/
def Binary.compareGrid (number : Binary) (digits : Nat) (place : Int) (quarters : Nat) : Ordering :=
  compare (4 * digits * above 10 place * below 2 number.exponent)
    (quarters * above 2 number.exponent * below 10 place)

/-- The decimal rounds to the number: it lies between the ends, which count for an even mantissa. -/
def Binary.roundsTo (number : Binary) (digits : Nat) (place : Int) : Bool :=
  let low := number.compareGrid digits place number.lowEnd
  let high := number.compareGrid digits place number.highEnd
  if number.mantissa % 2 = 0 then low.isGE && high.isLE else low.isGT && high.isLT

/-- The largest grid point not above the number. -/
def Binary.floorAt (number : Binary) (place : Int) : Nat :=
  (number.mantissa * above 2 number.exponent * below 10 place) /
    (above 10 place * below 2 number.exponent)

/-- Twice the number lies nearer to `2 · digits + 1` grid steps from below. -/
def Binary.nearerBelow (number : Binary) (digits : Nat) (place : Int) : Bool :=
  (number.compareGrid (2 * digits + 1) place (8 * number.mantissa)).isGE

/-- The grid point at this place that rounds to the number, the nearer of two. -/
def Binary.onGrid? (number : Binary) (place : Int) : Option Nat :=
  let down := number.floorAt place
  match number.roundsTo down place, number.roundsTo (down + 1) place with
  | true, true => some (if number.nearerBelow down place then down else down + 1)
  | true, false => some down
  | false, true => some (down + 1)
  | false, false => none

def countDigits (n : Nat) : Nat := (Nat.toDigits 10 n).length

/-- The place of the first decimal digit. -/
def Binary.leadingPlace (number : Binary) : Int :=
  let numerator := number.mantissa * above 2 number.exponent
  let denominator := below 2 number.exponent
  let guess : Int := (countDigits numerator : Int) - countDigits denominator
  if numerator * below 10 guess < denominator * above 10 guess then guess - 1 else guess

/-- Moves zeros at the end into the exponent. -/
def Digits.strip : Nat → Nat → Int → Digits
  | 0, digits, exponent => ⟨digits, exponent⟩
  | fuel + 1, digits, exponent =>
    if digits ≠ 0 ∧ digits % 10 = 0 then strip fuel (digits / 10) (exponent + 1) else ⟨digits, exponent⟩

/-- Tries grids of one digit, two digits and so on. Seventeen digits always suffice. -/
def Binary.search (number : Binary) : Nat → Int → Digits
  | 0, place => ⟨number.floorAt place, place⟩
  | finer + 1, place =>
    match number.onGrid? place with
    | some digits => Digits.strip 20 digits place
    | none => number.search finer (place - 1)

/-- The fewest digits that round back to the number. -/
def Binary.shortest (number : Binary) : Digits := number.search 17 number.leadingPlace

end ScriptedTask.Decimal
