import ScriptedTask.Decimal.Reading
import ScriptedTask.Wire.Format
import ScriptedTask.Yaml.Node

/-! What YAML nodes stand for. A quoted scalar is a text. A plain one is null, a truth value or a
number if it is spelled like one, and else a text; where a text is wanted, its spelling is. -/

namespace ScriptedTask.Yaml

namespace Plain

def nullWords : List String := ["", "null", "Null", "NULL", "~"]

def trueWords : List String := ["true", "True", "TRUE"]

def falseWords : List String := ["false", "False", "FALSE"]

def digitValue? (base : Nat) (c : Char) : Option Nat := do
  let value ← Json.hexValue? c
  if value < base then some value else none

/-- Digits of a base, at least one. -/
def magnitude? (base : Nat) (digits : List Char) : Option Nat :=
  if digits.isEmpty then none
  else digits.foldlM (fun value c => return value * base + (← digitValue? base c)) 0

/-- Digits that start with a zero are no number, except zero itself. -/
def isPadded (digits : List Char) : Bool :=
  1 < digits.length && digits.head? = some '0' && digits.all Char.isDigit

/-- A whole number without its sign. -/
def unsigned? (text : List Char) : Option Nat :=
  match text with
  | '0' :: 'x' :: digits => magnitude? 16 digits
  | '0' :: 'o' :: digits => magnitude? 8 digits
  | '0' :: 'b' :: digits => magnitude? 2 digits
  | digits => if isPadded digits then none else magnitude? 10 digits

/-- A whole number of up to 128 bits. -/
def integer? (text : List Char) : Option Int :=
  match text with
  | '-' :: rest => (unsigned? rest).bind fun value =>
    if value ≤ 0x80000000000000000000000000000000 then some (-(value : Int)) else none
  | '+' :: rest | rest => (unsigned? rest).bind fun value =>
    if value < 0x100000000000000000000000000000000 then some (value : Int) else none

/-- The exponent after a significand. -/
def exponent? (text : List Char) : Option Int :=
  match text with
  | [] => some 0
  | 'e' :: '-' :: digits | 'E' :: '-' :: digits => (magnitude? 10 digits).map fun value => -(value : Int)
  | 'e' :: '+' :: digits | 'E' :: '+' :: digits | 'e' :: digits | 'E' :: digits =>
    (magnitude? 10 digits).map fun value => (value : Int)
  | _ => none

/-- A decimal number without its sign. The point may come first or last. -/
def decimal? (text : List Char) : Option Float := do
  let whole := text.takeWhile Char.isDigit
  let rest := text.dropWhile Char.isDigit
  let (fraction, rest) := match rest with
    | '.' :: rest => (rest.takeWhile Char.isDigit, rest.dropWhile Char.isDigit)
    | rest => ([], rest)
  let digits := whole ++ fraction
  if digits.isEmpty then none
  else
    let exponent ← exponent? rest
    let value := Decimal.nearest (Decimal.digitsValue digits) (exponent - fraction.length)
    if Decimal.isFinite value then some value else none

def float? (text : List Char) : Option Float :=
  if isPadded (match text with | '-' :: rest | '+' :: rest | rest => rest) then none
  else
    match text with
    | '-' :: rest => (decimal? rest).map fun value => -value
    | '+' :: rest | rest => decimal? rest

/-- Spellings of numbers that are not finite, which no value can be. -/
def isSpecial (text : String) : Bool :=
  [".inf", ".Inf", ".INF", "+.inf", "+.Inf", "+.INF", "-.inf", "-.Inf", "-.INF", ".nan", ".NaN", ".NAN"].contains text

/-- The value of a plain scalar; none for a whole number that is too large for a value. -/
def value? (text : String) : Option Json :=
  if nullWords.contains text then some .null
  else if trueWords.contains text then some (.bool true)
  else if falseWords.contains text then some (.bool false)
  else
    match integer? text.toList with
    | some value => if inRange : InRange value then some (.integer value inRange) else none
    | none =>
      if isSpecial text then some .null
      else
        match float? text.toList with
        | some value => some (.float value)
        | none => some (.string text)

end Plain

namespace Node

/-- Sequences and mappings nest at most this deep. -/
def nestingLimit : Nat := 128

def text? : Node → Option String
  | .scalar text _ => some text
  | _ => none

def isNull : Node → Bool
  | .scalar text true => Plain.nullWords.contains text
  | _ => false

def isOmitted : Node → Bool
  | .scalar text true => text.isEmpty
  | _ => false

mutual
def value? (depth : Nat) (node : Node) : Option Json :=
  match node with
  | .scalar text true => Plain.value? text
  | .scalar text false => some (.string text)
  | .sequence items =>
    match depth with
    | 0 => none
    | inner + 1 => (valuesOf? inner items).map .array
  | .mapping members =>
    match depth with
    | 0 => none
    | inner + 1 => (membersOf? inner members).map fun found => .object (SortedMap.ofList found)

def valuesOf? (depth : Nat) : List Node → Option (List Json)
  | [] => some []
  | item :: rest => do return (← value? depth item) :: (← valuesOf? depth rest)

def membersOf? (depth : Nat) : List (Node × Node) → Option (List (String × Json))
  | [] => some []
  | (name, content) :: rest => do
    let name ← name.text?
    return (name, ← value? depth content) :: (← membersOf? depth rest)
end

end Node

/-- A node in which collections may nest `depth` deep. -/
structure Part where
  depth : Nat
  node : Node

namespace Part

def ofText? (text : String) : Option Part := (Node.ofText? text).map fun node => ⟨Node.nestingLimit, node⟩

/-- The members of a mapping; a node that was left out has none. -/
def members? (part : Part) : Option (List (String × Part)) :=
  if part.node.isOmitted then some []
  else
    match part.depth, part.node with
    | inner + 1, .mapping members =>
      members.mapM fun member => member.1.text?.map fun name => (name, ⟨inner, member.2⟩)
    | _, _ => none

end Part

/-- The format in which people write tasks. Records are mappings only. -/
def format : Wire.Format Part where
  members? := Part.members?
  items? _ := none
  text? part := part.node.text?
  isNull part := part.node.isNull
  value? part := part.node.value? part.depth

end ScriptedTask.Yaml
