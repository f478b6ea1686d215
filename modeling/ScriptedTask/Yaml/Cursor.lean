/-! A place in a YAML text. Columns count from zero at the start of a line. A carriage return, a line
feed, both in this order, or a next-line character end a line alike; the two separators of
Unicode end a line too, but stay what they are. -/

namespace ScriptedTask.Yaml

structure Cursor where
  rest : List Char
  column : Nat := 0
  line : Nat := 0
  offset : Nat := 0

def isBlank (c : Char) : Bool := c == ' ' || c == '\t'

def isBreak (c : Char) : Bool := c == '\n' || c == '\r' || c == '\x85' || c == '\u2028' || c == '\u2029'

/-- A blank, a line end, or the end of the text. -/
def isGap : Option Char → Bool
  | none => true
  | some c => isBlank c || isBreak c

/-- Characters that may occur in a text. -/
def isPrintable (c : Char) : Bool :=
  let code := c.toNat
  c == '\t' || c == '\n' || c == '\r' || (0x20 ≤ code && code ≤ 0x7E) || code == 0x85 ||
    (0xA0 ≤ code && code ≤ 0xD7FF) || (0xE000 ≤ code && code ≤ 0xFFFD) || 0x10000 ≤ code

namespace Cursor

def peek (cursor : Cursor) : Option Char := cursor.rest.head?

def peekAt (cursor : Cursor) (distance : Nat) : Option Char := cursor.rest[distance]?

/-- Past characters that end no line. -/
def advance (cursor : Cursor) (count : Nat) : Cursor :=
  { cursor with
    rest := cursor.rest.drop count, column := cursor.column + count, offset := cursor.offset + count }

/-- Past the end of a line, with the text that stands for it. -/
def readBreak (cursor : Cursor) : List Char × Cursor :=
  let next (text rest : List Char) (count : Nat) : List Char × Cursor :=
    (text, ⟨rest, 0, cursor.line + 1, cursor.offset + count⟩)
  match cursor.rest with
  | '\r' :: '\n' :: rest => next ['\n'] rest 2
  | '\n' :: rest | '\r' :: rest | '\x85' :: rest => next ['\n'] rest 1
  | c :: rest => next [c] rest 1
  | [] => ([], cursor)

/-- Three equal characters at the start of a line, alone, separate documents. -/
def isMarker (mark : Char) (cursor : Cursor) : Bool :=
  cursor.column = 0 && cursor.rest.take 3 == [mark, mark, mark] && isGap (cursor.peekAt 3)

def atMarker (cursor : Cursor) : Bool := cursor.isMarker '-' || cursor.isMarker '.'

def skipWhile (test : Char → Bool) (cursor : Cursor) : Cursor :=
  cursor.advance (cursor.rest.takeWhile test).length

/-- To the end of the line. -/
def skipLineRest (cursor : Cursor) : Cursor := cursor.skipWhile (!isBreak ·)

end Cursor
end ScriptedTask.Yaml
