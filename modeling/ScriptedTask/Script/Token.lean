import ScriptedTask.Script.Number
import ScriptedTask.Text.Blank
import ScriptedTask.Text.Letter

/-! Tokens of scripts. A text is cut into words, numbers, strings, marks and the pieces of
templates; blanks and comments only leave behind whether a line ended. -/

namespace ScriptedTask.Script

open Text (Units)

/-- Why a text is no script. -/
structure SyntaxFault where
  message : String

inductive Token where
  | word (name : Units) (escaped : Bool)
  | number (value : Num) (legacy : Bool)
  /-- A verbatim string has no escapes; a legacy one has octal escapes. -/
  | string (text : Units) (verbatim legacy : Bool)
  | mark (text : String)
  /-- Template text from the start of a template or the end of a substitution, up to the next
  substitution or the end of the template. -/
  | piece (text : Units) (first last : Bool)

/-- A token, and whether a line ended before it. -/
structure Lexeme where
  token : Token
  afterBreak : Bool

namespace Token

abbrev Read (α : Type) := List Char → Except SyntaxFault (α × List Char)

def fault {α : Type} (message : String) : Except SyntaxFault α := .error ⟨message⟩

def isLineEnd (c : Char) : Bool := c == '\n' || c == '\r' || c == '\u2028' || c == '\u2029'

/-- The blanks of scripts: those of plain text, but for the next-line control, and the byte
order mark. -/
def isScriptBlank (c : Char) : Bool := (Text.isBlank c && c != '\x85') || c == '\ufeff'

def isNameStart (c : Char) : Bool := Text.isLetter c || c == '_' || c == '$'

def isNamePart (c : Char) : Bool :=
  isNameStart c || Text.isDecimalDigit c || c == '\u200c' || c == '\u200d'

/-- What follows a block comment, and whether a line ended in it; none if it is not closed. -/
def afterComment? (broken : Bool) : List Char → Option (Bool × List Char)
  | [] => none
  | '*' :: '/' :: rest => some (broken, rest)
  | c :: rest => afterComment? (broken || isLineEnd c) rest

def afterLine (text : List Char) : List Char := text.dropWhile fun c => !isLineEnd c

/-- Skips blanks and comments. `fuel` bounds their number. -/
def skipBlanks : Nat → Bool → List Char → Except SyntaxFault (Bool × List Char)
  | 0, broken, text => .ok (broken, text)
  | fuel + 1, broken, text =>
    match text with
    | '/' :: '/' :: rest => skipBlanks fuel broken (afterLine rest)
    | '/' :: '*' :: rest =>
      match afterComment? broken rest with
      | some (broken, rest) => skipBlanks fuel broken rest
      | none => fault "unexpected end of comment"
    | '<' :: '!' :: '-' :: '-' :: rest => skipBlanks fuel broken (afterLine rest)
    | c :: rest =>
      if broken && text.take 3 == ['-', '-', '>'] then skipBlanks fuel broken (afterLine rest)
      else if isScriptBlank c then skipBlanks fuel (broken || isLineEnd c) rest
      else .ok (broken, text)
    | [] => .ok (broken, [])

/-! Escapes -/

def hexValue? (digits : List Char) : Option Nat :=
  if digits.isEmpty || !digits.all (Num.isDigitOf 16) then none else some (Num.valueIn 16 digits)

/-- The code point after a backslash and the letter u. -/
def codePoint : Read Nat := fun text =>
  match text with
  | '{' :: rest =>
    let digits := rest.takeWhile (· ≠ '}')
    match hexValue? digits, rest.drop digits.length with
    | some value, '}' :: rest => if value ≤ 0x10FFFF then .ok (value, rest) else fault "invalid escape"
    | _, _ => fault "malformed escape sequence"
  | _ =>
    let digits := text.take 4
    match hexValue? digits with
    | some value => if digits.length = 4 then .ok (value, text.drop 4) else fault "malformed escape sequence"
    | none => fault "malformed escape sequence"

/-- The units of a code point, which may be a surrogate. -/
def codeUnits (code : Nat) : List UInt16 :=
  if code < 0x10000 then [UInt16.ofNat code] else Text.Units.ofChar (Char.ofNat code)

def isOctal (c : Char) : Bool := '0' ≤ c && c ≤ '7'

/-- The digits of an octal escape: at most three, with a value below 256. -/
def octalDigits (text : List Char) : List Char :=
  let run := (text.take 3).takeWhile isOctal
  if run.length = 3 ∧ '3' < run.headD '0' then run.take 2 else run

/-- What an escape stands for, and whether it is a legacy escape. The backslash is read. -/
def escape : Read (List UInt16 × Bool) := fun text =>
  match text with
  | [] => fault "unexpected end of string"
  | 'n' :: rest => .ok (([10], false), rest)
  | 't' :: rest => .ok (([9], false), rest)
  | 'r' :: rest => .ok (([13], false), rest)
  | 'b' :: rest => .ok (([8], false), rest)
  | 'f' :: rest => .ok (([12], false), rest)
  | 'v' :: rest => .ok (([11], false), rest)
  | '\r' :: '\n' :: rest => .ok (([], false), rest)
  | 'x' :: rest =>
    match hexValue? (rest.take 2) with
    | some value =>
      if (rest.take 2).length = 2 then .ok (([UInt16.ofNat value], false), rest.drop 2)
      else fault "malformed escape sequence"
    | none => fault "malformed escape sequence"
  | 'u' :: rest => do
    let (code, rest) ← codePoint rest
    return ((codeUnits code, false), rest)
  | c :: rest =>
    if isLineEnd c then .ok (([], false), rest)
    else if c = '0' ∧ !(rest.headD 'x').isDigit then .ok (([0], false), rest)
    else if isOctal c then
      let digits := octalDigits (c :: rest)
      .ok (([UInt16.ofNat (Num.valueIn 8 digits)], true), (c :: rest).drop digits.length)
    else .ok ((Text.Units.ofChar c, c = '8' ∨ c = '9'), rest)

/-! Strings, templates, words and numbers -/

/-- A string after its opening quote. -/
def stringBody (quote : Char) : Nat → Units → Bool → Bool → Read Token
  | 0, _, _, _, _ => fault "unexpected end of string"
  | fuel + 1, units, verbatim, legacy, text =>
    match text with
    | [] => fault "unexpected end of string"
    | '\\' :: rest => do
      let ((found, old), rest) ← escape rest
      stringBody quote fuel (units ++ found.toArray) false (legacy || old) rest
    | c :: rest =>
      if c = quote then .ok (.string units verbatim legacy, rest)
      else if c = '\n' ∨ c = '\r' then fault "unexpected end of string"
      else stringBody quote fuel (units ++ (Text.Units.ofChar c).toArray) verbatim legacy rest

/-- A template's text up to its next substitution or its end. -/
def templatePiece (first : Bool) : Nat → Units → Read Token
  | 0, _, _ => fault "unexpected end of string"
  | fuel + 1, units, text =>
    match text with
    | [] => fault "unexpected end of string"
    | '\x60' :: rest => .ok (.piece units first true, rest)
    | '$' :: '{' :: rest => .ok (.piece units first false, rest)
    | '\r' :: '\n' :: rest | '\r' :: rest => templatePiece first fuel (units.push 10) rest
    | '\\' :: rest => do
      let ((found, old), rest) ← escape rest
      if old then fault "malformed escape sequence"
      else templatePiece first fuel (units ++ found.toArray) rest
    | c :: rest => templatePiece first fuel (units ++ (Text.Units.ofChar c).toArray) rest

/-- The rest of a word. An escaped character counts like the character. -/
def wordBody : Nat → Units → Bool → Read Token
  | 0, units, escaped, text => .ok (.word units escaped, text)
  | fuel + 1, units, escaped, text =>
    match text with
    | '\\' :: 'u' :: rest => do
      let (code, rest) ← codePoint rest
      let c := Char.ofNat code
      if c.toNat = code ∧ (if units.isEmpty then isNameStart c else isNamePart c) then
        wordBody fuel (units ++ (Text.Units.ofChar c).toArray) true rest
      else fault "unexpected character"
    | c :: rest =>
      if isNamePart c then wordBody fuel (units ++ (Text.Units.ofChar c).toArray) escaped rest
      else .ok (.word units escaped, text)
    | [] => .ok (.word units escaped, [])

/-- A whole number in another base, after its two leading characters. -/
def basedNumber (base : Nat) : Read Token := fun text =>
  match text.takeWhile (Num.isDigitOf base) with
  | [] => fault "invalid number literal"
  | digits => .ok (.number (Num.ofInt (Num.valueIn base digits)) false, text.drop digits.length)

def decimalNumber (legacy : Bool) : Read Token := fun text =>
  match Num.readDecimal text with
  | some (value, rest) => .ok (.number value legacy, rest)
  | none => fault "invalid number literal"

def numberBody : Read Token := fun text =>
  match text with
  | '0' :: 'x' :: rest | '0' :: 'X' :: rest => basedNumber 16 rest
  | '0' :: 'o' :: rest | '0' :: 'O' :: rest => basedNumber 8 rest
  | '0' :: 'b' :: rest | '0' :: 'B' :: rest => basedNumber 2 rest
  | '0' :: rest =>
    let digits := rest.takeWhile Char.isDigit
    if digits.isEmpty then decimalNumber false text
    else if digits.all isOctal then
      .ok (.number (Num.ofInt (Num.valueIn 8 digits)) true, rest.drop digits.length)
    else decimalNumber true text
  | _ => decimalNumber false text

/-- A number, which no word may follow directly. -/
def numberToken : Read Token := fun text => do
  let (found, rest) ← numberBody text
  match rest with
  | c :: _ => if isNamePart c then fault "invalid number literal" else return (found, rest)
  | [] => return (found, rest)

/-- All marks, longer ones before those they start with. -/
def marks : List String :=
  [">>>=", "===", "!==", ">>>", "<<=", ">>=", "**=", "...", "&&=", "||=", "??=",
    "=>", "==", "!=", "<=", ">=", "&&", "||", "??", "?.", "++", "--", "+=", "-=", "*=", "/=", "%=",
    "&=", "|=", "^=", "<<", ">>", "**",
    "\x7b", "\x7d", "(", ")", "[", "]", ";", ",", "<", ">", "+", "-", "*", "/", "%", "&", "|", "^",
    "!", "~", "?", ":", "=", "."]

/-- A mark at the front of a text. A question mark and a point before a digit are two. -/
def mark? (text : List Char) : Option (Token × List Char) :=
  match marks.find? fun candidate => candidate.toList.isPrefixOf text with
  | some found =>
    let rest := text.drop found.length
    if found = "?." ∧ (rest.headD 'x').isDigit then some (.mark "?", text.drop 1) else some (.mark found, rest)
  | none => none

/-- The token at the front of a text. `fuel` bounds its length. -/
def one (fuel : Nat) : Read Token := fun text =>
  match text with
  | '"' :: rest => stringBody '"' fuel #[] true false rest
  | '\'' :: rest => stringBody '\'' fuel #[] true false rest
  | '\x60' :: rest => templatePiece true fuel #[] rest
  | '\\' :: 'u' :: _ => wordBody fuel #[] false text
  | c :: rest =>
    if isNameStart c then wordBody fuel #[] false text
    else if c.isDigit ∨ (c = '.' ∧ (rest.headD 'x').isDigit) then numberToken text
    else
      match mark? text with
      | some found => .ok found
      | none => fault "unexpected character"
  | [] => fault "unexpected end"

/-- All tokens of a text. `braces` tells for each open brace whether it belongs to a template. -/
def readAll : Nat → List Bool → Array Lexeme → List Char → Except SyntaxFault (List Lexeme)
  | 0, _, done, _ => .ok done.toList
  | fuel + 1, braces, done, text => do
    let (afterBreak, text) ← skipBlanks (fuel + 1) false text
    match text, braces with
    | [], _ => return done.toList
    | '}' :: rest, true :: outer =>
      let (token, rest) ← templatePiece false fuel #[] rest
      let braces := match token with
        | .piece _ _ false => true :: outer
        | _ => outer
      readAll fuel braces (done.push ⟨token, afterBreak⟩) rest
    | _, _ =>
      let (token, rest) ← one fuel text
      let braces := match token with
        | .mark "\x7b" => false :: braces
        | .mark "\x7d" => braces.drop 1
        | .piece _ _ false => true :: braces
        | _ => braces
      readAll fuel braces (done.push ⟨token, afterBreak⟩) rest

def tokens (text : List Char) : Except SyntaxFault (List Lexeme) := readAll (text.length + 1) [] #[] text

end Token
end ScriptedTask.Script
