/-! Texts of scripts are sequences of 16-bit units. A character above U+FFFF is a pair of
surrogates, and a script may also hold a surrogate alone, which no text outside scripts
can: `decode?` refuses it, and takes back whatever `encode` produces. -/

namespace ScriptedTask.Text

abbrev Units := Array UInt16

namespace Units

def isHighSurrogate (unit : UInt16) : Bool := 0xD800 ≤ unit.toNat && unit.toNat < 0xDC00

def isLowSurrogate (unit : UInt16) : Bool := 0xDC00 ≤ unit.toNat && unit.toNat < 0xE000

/-- One unit, or the two surrogates of a character above U+FFFF. -/
def ofChar (c : Char) : List UInt16 :=
  let code := c.toNat
  if code < 0x10000 then [UInt16.ofNat code]
  else [UInt16.ofNat (0xD800 + (code - 0x10000) / 0x400), UInt16.ofNat (0xDC00 + (code - 0x10000) % 0x400)]

def encode (text : List Char) : List UInt16 := text.flatMap ofChar

/-- The character that a high and a low surrogate stand for. -/
def pair (high low : UInt16) : Char :=
  Char.ofNat (0x10000 + (high.toNat - 0xD800) * 0x400 + (low.toNat - 0xDC00))

/-- What a sequence of units spells: characters, and surrogates that stand alone. -/
def spell : List UInt16 → List (Char ⊕ UInt16)
  | [] => []
  | [unit] => if isHighSurrogate unit || isLowSurrogate unit then [.inr unit] else [.inl (Char.ofNat unit.toNat)]
  | unit :: next :: rest =>
    if isHighSurrogate unit && isLowSurrogate next then .inl (pair unit next) :: spell rest
    else if isHighSurrogate unit || isLowSurrogate unit then .inr unit :: spell (next :: rest)
    else .inl (Char.ofNat unit.toNat) :: spell (next :: rest)

/-- The text that the units spell, if no surrogate stands alone. -/
def decode? (units : List UInt16) : Option (List Char) :=
  (spell units).mapM fun
    | .inl c => some c
    | .inr _ => none

def ofString (text : String) : Units := (encode text.toList).toArray

def toString? (units : Units) : Option String := (decode? units.toList).map String.ofList

/-- A text of basic characters, one unit each. -/
def ofAscii (text : String) : Units := (text.toList.map fun c => UInt16.ofNat c.toNat).toArray

/-- The first units of two texts agree, compared from the last of them on. -/
def agree (left right : Units) : Nat → Bool
  | 0 => true
  | count + 1 => left.getD count 0 == right.getD count 0 && agree left right count

/-- Equality, which mostly ends at the last units or at the sizes. -/
def same (left right : Units) : Bool := left.size == right.size && agree left right left.size

/-- Ascending by units, which differs from the order of characters above U+FFFF. -/
def lt : List UInt16 → List UInt16 → Bool
  | [], [] => false
  | [], _ :: _ => true
  | _ :: _, [] => false
  | x :: xs, y :: ys => if x < y then true else if x == y then lt xs ys else false

end Units
end ScriptedTask.Text
