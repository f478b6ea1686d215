import ScriptedTask.Json.Parser
import ScriptedTask.Yaml.Cursor

/-! The texts of scalars. Inside a scalar that runs over several lines, the end of a line counts as
a blank, and of several line ends in a row all but the first count as themselves. -/

namespace ScriptedTask.Yaml

/-- Blanks between two pieces of a scalar, or line ends in place of them. -/
structure Gap where
  blanks : List Char := []
  firstBreak : Option (List Char) := none
  moreBreaks : List Char := []

namespace Gap

/-- What the gap amounts to. -/
def text (gap : Gap) : List Char :=
  match gap.firstBreak with
  | none => gap.blanks
  | some ['\n'] => if gap.moreBreaks.isEmpty then [' '] else gap.moreBreaks
  | some other => other ++ gap.moreBreaks

/-- Reads a gap. In lines that start left of `least`, no tab may stand in front. -/
def read (least : Nat) : Nat → Gap → Cursor → Option (Gap × Cursor)
  | 0, _, _ => none
  | fuel + 1, gap, cursor =>
    match cursor.peek with
    | some c =>
      if isBlank c then
        match gap.firstBreak with
        | none => read least fuel { gap with blanks := gap.blanks ++ [c] } (cursor.advance 1)
        | some _ =>
          if c = '\t' ∧ cursor.column < least then none else read least fuel gap (cursor.advance 1)
      else if isBreak c then
        let (text, cursor) := cursor.readBreak
        match gap.firstBreak with
        | none => read least fuel { gap with firstBreak := some text } cursor
        | some _ => read least fuel { gap with moreBreaks := gap.moreBreaks ++ text } cursor
      else some (gap, cursor)
    | none => some (gap, cursor)

end Gap

def isFlowMark (c : Char) : Bool := c == ',' || c == '[' || c == ']' || c == '{' || c == '}'

def startsFlow (next : Option Char) : Bool := next.any fun c => isFlowMark c || c == '?'

/-- Reads a piece of a plain scalar up to a gap or to a mark that ends it. -/
def readPiece (inFlow : Bool) : Nat → List Char → Cursor → Option (List Char × Cursor)
  | 0, _, _ => none
  | fuel + 1, done, cursor =>
    match cursor.peek with
    | none => some (done.reverse, cursor)
    | some c =>
      let next := cursor.peekAt 1
      if isGap (some c) then some (done.reverse, cursor)
      else if inFlow ∧ c = ':' ∧ startsFlow next then none
      else if (c = ':' ∧ isGap next) ∨ (inFlow ∧ isFlowMark c) then some (done.reverse, cursor)
      else readPiece inFlow fuel (c :: done) (cursor.advance 1)

/-- Reads a plain scalar. It goes on in lines that do not start left of `least`. The answer tells
whether the place behind it is at the start of a line. -/
def readPlain (inFlow : Bool) (least : Nat) :
    Nat → List Char → Gap → Cursor → Option (List Char × Bool × Cursor)
  | 0, _, _, _ => none
  | fuel + 1, done, gap, cursor =>
    if cursor.atMarker ∨ cursor.peek = some '#' then some (done, gap.firstBreak.isSome, cursor)
    else do
      let (piece, after) ← readPiece inFlow (cursor.rest.length + 1) [] cursor
      let (done, gap) := if piece.isEmpty then (done, gap) else (done ++ gap.text ++ piece, {})
      if after.peek.any fun c => isBlank c || isBreak c then
        let (gap, after) ← Gap.read least (after.rest.length + 1) gap after
        if !inFlow ∧ after.column < least then some (done, gap.firstBreak.isSome, after)
        else readPlain inFlow least fuel done gap after
      else some (done, gap.firstBreak.isSome, after)

/-- Escapes of one character. -/
def simpleEscape? (c : Char) : Option Char :=
  match c with
  | '0' => some '\x00'
  | 'a' => some '\x07'
  | 'b' => some '\x08'
  | 't' | '\t' => some '\t'
  | 'n' => some '\n'
  | 'v' => some '\x0b'
  | 'f' => some '\x0c'
  | 'r' => some '\r'
  | 'e' => some '\x1b'
  | ' ' => some ' '
  | '"' => some '"'
  | '/' => some '/'
  | '\\' => some '\\'
  | 'N' => some '\x85'
  | '_' => some '\xa0'
  | 'L' => some '\u2028'
  | 'P' => some '\u2029'
  | _ => none

/-- How many digits follow an escape that gives a code. -/
def codeLength? (c : Char) : Option Nat :=
  match c with
  | 'x' => some 2
  | 'u' => some 4
  | 'U' => some 8
  | _ => none

def hexCode? (digits : List Char) : Option Nat :=
  digits.foldlM (fun code c => return code * 16 + (← Json.hexValue? c)) 0

/-- The character of an escape after its backslash, and the length of the escape. -/
def escape? (text : List Char) : Option (Char × Nat) :=
  match text with
  | [] => none
  | c :: rest =>
    match codeLength? c with
    | none => (simpleEscape? c).map fun plain => (plain, 1)
    | some length => do
      let digits := rest.take length
      if digits.length < length then none
      else
        let code ← hexCode? digits
        if code.isValidChar then some (Char.ofNat code, length + 1) else none

/-- Reads a piece of a quoted scalar up to a gap or to the closing quote. The answer tells whether
the line was continued by a backslash at its end. -/
def readQuotedPiece (double : Bool) : Nat → List Char → Cursor → Option (List Char × Bool × Cursor)
  | 0, _, _ => none
  | fuel + 1, done, cursor =>
    match cursor.rest with
    | [] => none
    | c :: rest =>
      if isGap (some c) then some (done.reverse, false, cursor)
      else if !double ∧ c = '\'' then
        match rest with
        | '\'' :: _ => readQuotedPiece double fuel ('\'' :: done) (cursor.advance 2)
        | _ => some (done.reverse, false, cursor)
      else if double ∧ c = '"' then some (done.reverse, false, cursor)
      else if double ∧ c = '\\' then
        if rest.head?.any isBreak then some (done.reverse, true, (cursor.advance 1).readBreak.2)
        else
          match escape? rest with
          | some (plain, length) => readQuotedPiece double fuel (plain :: done) (cursor.advance (length + 1))
          | none => none
      else readQuotedPiece double fuel (c :: done) (cursor.advance 1)

/-- Reads a quoted scalar after its opening quote. -/
def readQuoted (double : Bool) : Nat → List Char → Cursor → Option (List Char × Cursor)
  | 0, _, _ => none
  | fuel + 1, done, cursor =>
    if cursor.atMarker then none
    else do
      let (piece, continued, after) ← readQuotedPiece double (cursor.rest.length + 1) [] cursor
      let done := done ++ piece
      let quote := if double then '"' else '\''
      if after.peek = some quote then some (done, after.advance 1)
      else
        let start : Gap := if continued then { firstBreak := some [] } else {}
        let (gap, after) ← Gap.read 0 (after.rest.length + 1) start after
        readQuoted double fuel (done ++ gap.text) after

/-- Which of the line ends after a block scalar belong to it. -/
inductive Chomping where
  | strip
  | clip
  | keep
deriving DecidableEq

def chomping? (c : Char) : Option Chomping :=
  match c with
  | '-' => some .strip
  | '+' => some .keep
  | _ => none

/-- The indicators of a block scalar, in either order. The indentation is a digit but not zero. -/
def readHeader (cursor : Cursor) : Option (Chomping × Option Nat × Cursor) :=
  let digit? (cursor : Cursor) : Option (Option Nat × Cursor) :=
    match cursor.peek with
    | some c =>
      if c = '0' then none
      else if c.isDigit then some (some (c.toNat - 48), cursor.advance 1)
      else some (none, cursor)
    | none => some (none, cursor)
  match cursor.peek.bind chomping? with
  | some chomping => do
    let (increment, cursor) ← digit? (cursor.advance 1)
    return (chomping, increment, cursor)
  | none => do
    let (increment, cursor) ← digit? cursor
    match increment, cursor.peek.bind chomping? with
    | some _, some chomping => return (chomping, increment, cursor.advance 1)
    | _, _ => return (.clip, increment, cursor)

/-- Past blanks and a comment to the end of the line. -/
def readHeaderEnd (cursor : Cursor) : Option Cursor :=
  let cursor := cursor.skipWhile isBlank
  let cursor := if cursor.peek = some '#' then cursor.skipLineRest else cursor
  match cursor.peek with
  | none => some cursor
  | some c => if isBreak c then some cursor.readBreak.2 else none

/-- Reads indentation and empty lines before a line of a block scalar. As long as the indentation
is not known, it is the widest of the lines; `found` is the widest so far. -/
def readIndentation (indentation : Option Nat) :
    Nat → (found : Nat) → (breaks : List Char) → Cursor → Option (Nat × List Char × Cursor)
  | 0, _, _, _ => none
  | fuel + 1, found, breaks, cursor =>
    let inside (column : Nat) : Bool := indentation.all (column < ·)
    let blanks := (cursor.rest.takeWhile (· == ' ')).length
    let cursor := cursor.advance (match indentation with
      | none => blanks
      | some width => min blanks (width - cursor.column))
    let found := max found cursor.column
    if inside cursor.column ∧ cursor.peek = some '\t' then none
    else if cursor.peek.any isBreak then
      let (text, cursor) := cursor.readBreak
      readIndentation indentation fuel found (breaks ++ text) cursor
    else some (found, breaks, cursor)

/-- The lines of a block scalar read so far. -/
structure BlockText where
  text : List Char := []
  /-- The end of the last line. -/
  lineBreak : List Char := []
  /-- The ends of empty lines after it. -/
  moreBreaks : List Char := []
  /-- The last line started with a blank. -/
  indented : Bool := false

/-- The text before a further line. A folded line end counts as a blank, or as nothing before an
empty line; not so beside lines that start with a blank. -/
def BlockText.joined (block : BlockText) (folded startsBlank : Bool) : List Char :=
  if folded ∧ block.lineBreak = ['\n'] ∧ !block.indented ∧ !startsBlank then
    block.text ++ (if block.moreBreaks.isEmpty then [' '] else block.moreBreaks)
  else block.text ++ block.lineBreak ++ block.moreBreaks

def readBlockLines (folded : Bool) (width : Nat) : Nat → BlockText → Cursor → Option (BlockText × Cursor)
  | 0, _, _ => none
  | fuel + 1, block, cursor =>
    if cursor.column = width ∧ !cursor.rest.isEmpty then do
      let startsBlank := cursor.peek.any isBlank
      let line := cursor.rest.takeWhile (!isBreak ·)
      let text := block.joined folded startsBlank ++ line
      let (lineBreak, cursor) := cursor.skipLineRest.readBreak
      let (_, moreBreaks, cursor) ← readIndentation (some width) (cursor.rest.length + 1) 0 [] cursor
      readBlockLines folded width fuel ⟨text, lineBreak, moreBreaks, startsBlank⟩ cursor
    else some (block, cursor)

/-- Reads a block scalar after its mark. `least` is the column right of the enclosing block. -/
def readBlock (folded : Bool) (least : Nat) (cursor : Cursor) : Option (List Char × Cursor) := do
  let (chomping, increment, cursor) ← readHeader cursor
  let cursor ← readHeaderEnd cursor
  let given := increment.map fun increment => (least - 1) + increment
  let (found, breaks, cursor) ← readIndentation given (cursor.rest.length + 1) 0 [] cursor
  let width := given.getD (max found (max least 1))
  let (block, cursor) ←
    readBlockLines folded width (cursor.rest.length + 1) { moreBreaks := breaks } cursor
  return (block.text ++ (if chomping = .strip then [] else block.lineBreak) ++
    (if chomping = .keep then block.moreBreaks else []), cursor)

end ScriptedTask.Yaml
