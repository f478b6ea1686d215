import ScriptedTask.Json.Number
import ScriptedTask.Text.Blank
import ScriptedTask.Text.Bytes
import ScriptedTask.Text.Units

/-! Reading values from text. A reader takes the text that is left and returns a value with
the text after it, or a failure with the text at which it arose. Arrays and objects nest up
to a limit, names and strings hold no surrogate that stands alone, and a number must be
finite. Of two members with one name the later one counts. -/

namespace ScriptedTask.Json

inductive ReadError where
  | malformed
  | tooDeep
  /-- A high surrogate is not followed by another escape. -/
  | unfinishedSurrogate
  /-- A low surrogate comes first, or something else comes second. -/
  | loneSurrogate
  | outOfRange
deriving DecidableEq

/-- What went wrong, and the text that was left. -/
structure Failure where
  cause : ReadError
  rest : List Char
deriving DecidableEq

abbrev Reader (α : Type) := List Char → Except Failure (α × List Char)

/-- Arrays and objects nest at most this deep. -/
def nestingLimit : Nat := 127

def malformed {α : Type} (rest : List Char) : Except Failure α := .error ⟨.malformed, rest⟩

def skipBlanks (text : List Char) : List Char := text.dropWhile Text.isPlainBlank

def hexValue? (c : Char) : Option Nat :=
  if c.isDigit then some (c.toNat - 48)
  else if 'a' ≤ c ∧ c ≤ 'f' then some (c.toNat - 87)
  else if 'A' ≤ c ∧ c ≤ 'F' then some (c.toNat - 55)
  else none

def hex4? (a b c d : Char) : Option UInt16 := do
  return UInt16.ofNat ((((← hexValue? a) * 16 + (← hexValue? b)) * 16 + (← hexValue? c)) * 16 + (← hexValue? d))

def simpleEscape? (c : Char) : Option Char :=
  match c with
  | '"' => some '"'
  | '\\' => some '\\'
  | '/' => some '/'
  | 'b' => some '\x08'
  | 'f' => some '\x0c'
  | 'n' => some '\n'
  | 'r' => some '\r'
  | 't' => some '\t'
  | _ => none

/-- A string after its opening quote; `done` is what was read of it, last character first. -/
def stringBody (done : List Char) : Reader (List Char)
  | [] => malformed []
  | '"' :: rest => .ok (done.reverse, rest)
  | '\\' :: 'u' :: a :: b :: c :: d :: rest =>
    match hex4? a b c d with
    | none => malformed rest
    | some unit =>
      if Text.Units.isLowSurrogate unit then .error ⟨.loneSurrogate, rest⟩
      else if Text.Units.isHighSurrogate unit then
        match rest with
        | '\\' :: 'u' :: e :: f :: g :: h :: after =>
          match hex4? e f g h with
          | none => malformed after
          | some low =>
            if Text.Units.isLowSurrogate low then stringBody (Text.Units.pair unit low :: done) after
            else .error ⟨.loneSurrogate, after⟩
        | '\\' :: 'u' :: after => malformed after
        | '\\' :: after => .error ⟨.unfinishedSurrogate, after⟩
        | _ => .error ⟨.unfinishedSurrogate, rest⟩
      else stringBody (Char.ofNat unit.toNat :: done) rest
  | '\\' :: c :: rest =>
    match simpleEscape? c with
    | some plain => stringBody (plain :: done) rest
    | none => malformed rest
  | c :: rest => if c < ' ' then malformed rest else stringBody (c :: done) rest

/-- One digit or more. -/
def digits (text : List Char) : Except Failure (List Char × List Char) :=
  match text.takeWhile Char.isDigit with
  | [] => malformed text
  | found => .ok (found, text.dropWhile Char.isDigit)

def fractionPart (text : List Char) : Except Failure (Option (List Char) × List Char) :=
  match text with
  | '.' :: rest => (digits rest).map fun (fraction, rest) => (some fraction, rest)
  | _ => .ok (none, text)

def exponentDigits (negative : Bool) (text : List Char) :
    Except Failure (Option (Bool × List Char) × List Char) :=
  (digits text).map fun (exponent, rest) => (some (negative, exponent), rest)

def exponentPart (text : List Char) : Except Failure (Option (Bool × List Char) × List Char) :=
  match text with
  | 'e' :: '-' :: rest | 'E' :: '-' :: rest => exponentDigits true rest
  | 'e' :: '+' :: rest | 'E' :: '+' :: rest => exponentDigits false rest
  | 'e' :: rest | 'E' :: rest => exponentDigits false rest
  | _ => .ok (none, text)

/-- A number after its sign. Only the digit zero itself starts with a zero. -/
def unsignedLexeme (negative : Bool) (text : List Char) : Except Failure (Lexeme × List Char) := do
  let (whole, rest) ← digits text
  if whole.length > 1 ∧ whole.head? = some '0' then malformed text
  else
    let (fraction, rest) ← fractionPart rest
    let (exponent, rest) ← exponentPart rest
    return (⟨negative, whole, fraction, exponent⟩, rest)

def lexeme (text : List Char) : Except Failure (Lexeme × List Char) :=
  match text with
  | '-' :: rest => unsignedLexeme true rest
  | _ => unsignedLexeme false text

def number : Reader Json := fun text => do
  let (read, rest) ← lexeme text
  match read.value? with
  | some value => return (value, rest)
  | none => .error ⟨.outOfRange, rest⟩

/-- The items of an array after its opening bracket, at least one. `fuel` bounds their number;
`done` are those read, last first. -/
def items {α : Type} (item : Reader α) : Nat → List α → Reader (List α)
  | 0, _, text => malformed text
  | fuel + 1, done, text => do
    let (read, rest) ← item text
    match skipBlanks rest with
    | ',' :: rest => items item fuel (read :: done) rest
    | ']' :: rest => return ((read :: done).reverse, rest)
    | rest => malformed rest

/-- The name of a member and the colon after it. -/
def memberName : Reader String := fun text =>
  match skipBlanks text with
  | '"' :: rest => do
    let (name, rest) ← stringBody [] rest
    match skipBlanks rest with
    | ':' :: rest => return (String.ofList name, rest)
    | rest => malformed rest
  | rest => malformed rest

/-- The members of an object after its opening brace, at least one. -/
def members {ν α : Type} (name : Reader ν) (item : Reader α) : Nat → List (ν × α) → Reader (List (ν × α))
  | 0, _, text => malformed text
  | fuel + 1, done, text => do
    let (known, rest) ← name text
    let (read, rest) ← item rest
    match skipBlanks rest with
    | ',' :: rest => members name item fuel ((known, read) :: done) rest
    | '}' :: rest => return (((known, read) :: done).reverse, rest)
    | rest => malformed rest

/-- A value with at most `depth` arrays and objects around one another. -/
def value (depth : Nat) : Reader Json := fun text =>
  match skipBlanks text with
  | 'n' :: 'u' :: 'l' :: 'l' :: rest => .ok (.null, rest)
  | 't' :: 'r' :: 'u' :: 'e' :: rest => .ok (.bool true, rest)
  | 'f' :: 'a' :: 'l' :: 's' :: 'e' :: rest => .ok (.bool false, rest)
  | '"' :: rest => (stringBody [] rest).map fun (content, rest) => (.string (String.ofList content), rest)
  | '[' :: rest =>
    match depth with
    | 0 => .error ⟨.tooDeep, '[' :: rest⟩
    | inner + 1 =>
      match skipBlanks rest with
      | ']' :: rest => .ok (.array [], rest)
      | rest => (items (value inner) rest.length [] rest).map fun (read, rest) => (.array read, rest)
  | '{' :: rest =>
    match depth with
    | 0 => .error ⟨.tooDeep, '{' :: rest⟩
    | inner + 1 =>
      match skipBlanks rest with
      | '}' :: rest => .ok (.object .nil, rest)
      | rest =>
        (members memberName (value inner) rest.length [] rest).map fun (read, rest) =>
          (.object (SortedMap.ofList read), rest)
  | rest => number rest

/-- A text that holds one value and nothing after it. -/
def readWithin (depth : Nat) (text : List Char) : Except Failure Json := do
  let (read, rest) ← value depth text
  match skipBlanks rest with
  | [] => return read
  | rest => malformed rest

def read (text : String) : Except Failure Json := readWithin nestingLimit text.toList

def parse? (text : String) : Option Json := (read text).toOption

/-- Where a failure is reported: its line, and its column in bytes. A lone surrogate is noticed
after its escape, the others at the character that should not be there. -/
def Failure.position (failure : Failure) (text : List Char) : Nat × Nat :=
  let consumed := text.take (text.length - failure.rest.length)
  let column := Text.byteCount (consumed.reverse.takeWhile (· ≠ '\n'))
  (consumed.count '\n' + 1, if failure.cause = .loneSurrogate then column else column + 1)

end ScriptedTask.Json
