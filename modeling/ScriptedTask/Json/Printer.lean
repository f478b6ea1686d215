import ScriptedTask.Decimal.Layout
import ScriptedTask.Json.Basic

/-! The text of a value, compact on one line or indented. Strings escape the quote, the
backslash and the control characters, and nothing else; a number keeps its kind, so a
float is always told from a whole number. -/

namespace ScriptedTask.Json

/-- A float has a point or an exponent; the point stays in place from 1e-5 to 1e15. -/
def floatLayout : Decimal.Layout := ⟨-5, 15, true⟩

def hexDigit (value : Nat) : Char := Nat.digitChar value

def escape (c : Char) : List Char :=
  if c = '"' then ['\\', '"']
  else if c = '\\' then ['\\', '\\']
  else if c = '\x08' then ['\\', 'b']
  else if c = '\t' then ['\\', 't']
  else if c = '\n' then ['\\', 'n']
  else if c = '\x0c' then ['\\', 'f']
  else if c = '\r' then ['\\', 'r']
  else if c < ' ' then ['\\', 'u', '0', '0', hexDigit (c.toNat / 16), hexDigit (c.toNat % 16)]
  else [c]

def quote (text : List Char) : List Char := '"' :: text.flatMap escape ++ ['"']

def writeInt (value : Int) : List Char :=
  if value < 0 then '-' :: Nat.toDigits 10 value.natAbs else Nat.toDigits 10 value.toNat

mutual
/-- The text without blanks. -/
def compact : Json → List Char
  | .null => ['n', 'u', 'l', 'l']
  | .bool true => ['t', 'r', 'u', 'e']
  | .bool false => ['f', 'a', 'l', 's', 'e']
  | .integer value _ => writeInt value
  | .float value => Decimal.writeFloat floatLayout value
  | .string text => quote text.toList
  | .array [] => ['[', ']']
  | .array (item :: rest) => '[' :: compact item ++ compactItems rest
  | .object .nil => ['{', '}']
  | .object (.cons name _ value rest) =>
    '{' :: quote name.toList ++ ':' :: compact value ++ compactMembers rest

/-- What follows the first item of an array. -/
def compactItems : List Json → List Char
  | [] => [']']
  | item :: rest => ',' :: compact item ++ compactItems rest

/-- What follows the first member of an object. -/
def compactMembers {lower : Option String} : Ascending Json lower → List Char
  | .nil => ['}']
  | .cons name _ value rest => ',' :: quote name.toList ++ ':' :: compact value ++ compactMembers rest
end

/-- A line break and the indentation of a level. -/
def newline (level : Nat) : List Char := '\n' :: List.replicate (2 * level) ' '

mutual
/-- The text with one item or member a line, two blanks deeper than the brackets around it. -/
def indented (level : Nat) : Json → List Char
  | .array [] => ['[', ']']
  | .array (item :: rest) =>
    '[' :: newline (level + 1) ++ indented (level + 1) item ++ indentedItems level rest
  | .object .nil => ['{', '}']
  | .object (.cons name _ value rest) =>
    '{' :: newline (level + 1) ++ quote name.toList ++ ':' :: ' ' :: indented (level + 1) value ++
      indentedMembers level rest
  | scalar => compact scalar

def indentedItems (level : Nat) : List Json → List Char
  | [] => newline level ++ [']']
  | item :: rest => ',' :: newline (level + 1) ++ indented (level + 1) item ++ indentedItems level rest

def indentedMembers (level : Nat) {lower : Option String} : Ascending Json lower → List Char
  | .nil => newline level ++ ['}']
  | .cons name _ value rest =>
    ',' :: newline (level + 1) ++ quote name.toList ++ ':' :: ' ' :: indented (level + 1) value ++
      indentedMembers level rest
end

def text (value : Json) : String := String.ofList value.compact

def prettyText (value : Json) : String := String.ofList (value.indented 0)

end ScriptedTask.Json
