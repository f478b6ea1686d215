import ScriptedTask.Yaml.Scalar

/-! The tokens of a YAML text. Indentation becomes explicit: a block collection starts where a line
is indented deeper than the block around it, and ends where a line is indented less. Whether a
scalar or a flow collection was a key turns out only at the colon behind it, so the place of the
last thing that may be a key is remembered, one for each level of flow collections. -/

namespace ScriptedTask.Yaml

inductive Token where
  | documentStart
  | documentEnd
  | blockSequence
  | blockMapping
  | blockEnd
  | flowSequence
  | flowSequenceEnd
  | flowMapping
  | flowMappingEnd
  | blockEntry
  | flowEntry
  | key
  | value
  | scalar (text : String) (plain : Bool)
deriving DecidableEq

/-- Something that is a key if a colon follows it. -/
structure Candidate where
  /-- How many tokens come before it. -/
  index : Nat
  start : Cursor
  /-- It stands where only a key may stand. -/
  required : Bool

structure Scanner where
  cursor : Cursor
  tokens : Array Token := #[]
  /-- The columns of the open block collections, the innermost first. -/
  blocks : List Nat := []
  /-- A key may start here. -/
  keyAllowed : Bool := true
  candidate : Option Candidate := none
  /-- The candidates outside the open flow collections, the innermost first. -/
  outer : List (Option Candidate) := []

namespace Scanner

def inFlow (scanner : Scanner) : Bool := !scanner.outer.isEmpty

/-- The first column right of the innermost block. -/
def least (scanner : Scanner) : Nat :=
  match scanner.blocks with
  | column :: _ => column + 1
  | [] => 0

def emit (scanner : Scanner) (token : Token) : Scanner := { scanner with tokens := scanner.tokens.push token }

/-- Puts a token before those that came later. -/
def emitAt (scanner : Scanner) (index : Nat) (token : Token) : Scanner :=
  { scanner with
    tokens := scanner.tokens.extract 0 index |>.push token |>.append
      (scanner.tokens.extract index scanner.tokens.size) }

/-- Gives the candidate up, which it must allow. -/
def dropCandidate (scanner : Scanner) : Option Scanner :=
  if scanner.candidate.any Candidate.required then none else some { scanner with candidate := none }

/-- What comes next may be a key. -/
def markCandidate (scanner : Scanner) : Option Scanner :=
  if scanner.keyAllowed then do
    let scanner ← scanner.dropCandidate
    let required := !scanner.inFlow && scanner.blocks.head? == some scanner.cursor.column
    return { scanner with candidate := some ⟨scanner.tokens.size, scanner.cursor, required⟩ }
  else some scanner

/-- Opens a block collection unless one is open at this column or right of it. -/
def openBlock (scanner : Scanner) (column index : Nat) (token : Token) : Scanner :=
  if scanner.inFlow || column < scanner.least then scanner
  else { scanner with blocks := column :: scanner.blocks }.emitAt index token

/-- Closes the block collections whose columns pass the test. -/
def closeBlocks (scanner : Scanner) (closes : Nat → Bool) : Scanner :=
  let closed := (scanner.blocks.takeWhile closes).length
  { scanner with
    blocks := scanner.blocks.drop closed
    tokens := scanner.tokens ++ Array.replicate closed Token.blockEnd }

def skip (scanner : Scanner) (count : Nat) : Scanner := { scanner with cursor := scanner.cursor.advance count }

/-- Past blanks, comments and line ends. A tab is no blank where a key may start in a block. -/
def skipGap : Nat → Scanner → Scanner
  | 0, scanner => scanner
  | fuel + 1, scanner =>
    let cursor := if scanner.cursor.column = 0 ∧ scanner.cursor.peek = some '\ufeff'
      then scanner.cursor.advance 1 else scanner.cursor
    let cursor := cursor.skipWhile fun c => c == ' ' || (c == '\t' && (scanner.inFlow || !scanner.keyAllowed))
    let cursor := if cursor.peek = some '#' then cursor.skipLineRest else cursor
    if cursor.peek.any isBreak then
      skipGap fuel { scanner with
        cursor := cursor.readBreak.2, keyAllowed := scanner.keyAllowed || !scanner.inFlow }
    else { scanner with cursor }

def readMarker (scanner : Scanner) (token : Token) : Option Scanner := do
  let scanner ← (scanner.closeBlocks fun _ => true).dropCandidate
  return ({ scanner with keyAllowed := false }.emit token).skip 3

def openFlow (scanner : Scanner) (token : Token) : Option Scanner := do
  let scanner ← scanner.markCandidate
  return ({ scanner with
    outer := scanner.candidate :: scanner.outer, candidate := none, keyAllowed := true }.emit token).skip 1

def closeFlow (scanner : Scanner) (token : Token) : Option Scanner := do
  let scanner ← scanner.dropCandidate
  let scanner := match scanner.outer with
    | candidate :: outer => { scanner with candidate, outer }
    | [] => scanner
  return ({ scanner with keyAllowed := false }.emit token).skip 1

def readFlowEntry (scanner : Scanner) : Option Scanner := do
  let scanner ← scanner.dropCandidate
  return ({ scanner with keyAllowed := true }.emit .flowEntry).skip 1

/-- Opens a block collection at an indicator, which in a block must be where a key may start. -/
def openBlockHere (scanner : Scanner) (token : Token) : Option Scanner :=
  if scanner.inFlow then some scanner
  else if scanner.keyAllowed then some (scanner.openBlock scanner.cursor.column scanner.tokens.size token)
  else none

def readBlockEntry (scanner : Scanner) : Option Scanner := do
  let scanner ← (← scanner.openBlockHere .blockSequence).dropCandidate
  return ({ scanner with keyAllowed := true }.emit .blockEntry).skip 1

def readKey (scanner : Scanner) : Option Scanner := do
  let scanner ← (← scanner.openBlockHere .blockMapping).dropCandidate
  return ({ scanner with keyAllowed := !scanner.inFlow }.emit .key).skip 1

/-- A key stands in one line and is no longer than 1024 characters. -/
def isTooFar (scanner : Scanner) (candidate : Candidate) : Bool :=
  candidate.start.line < scanner.cursor.line || candidate.start.offset + 1024 < scanner.cursor.offset

/-- A colon that no key comes before. -/
def readBareValue (scanner : Scanner) : Option Scanner := do
  let scanner ← scanner.openBlockHere .blockMapping
  return ({ scanner with keyAllowed := !scanner.inFlow, candidate := none }.emit .value).skip 1

def readValue (scanner : Scanner) : Option Scanner :=
  match scanner.candidate with
  | none => scanner.readBareValue
  | some candidate =>
    if scanner.isTooFar candidate then
      if candidate.required then none else scanner.readBareValue
    else
      let scanner := scanner.emitAt candidate.index .key
      let scanner := scanner.openBlock candidate.start.column candidate.index .blockMapping
      some (({ scanner with candidate := none, keyAllowed := false }.emit .value).skip 1)

def readBlockScalar (scanner : Scanner) (folded : Bool) : Option Scanner := do
  let scanner ← scanner.dropCandidate
  let (text, cursor) ← readBlock folded scanner.least (scanner.cursor.advance 1)
  return { scanner with cursor, keyAllowed := true }.emit (.scalar (String.ofList text) false)

def readQuotedScalar (scanner : Scanner) (double : Bool) : Option Scanner := do
  let scanner ← scanner.markCandidate
  let (text, cursor) ← readQuoted double (scanner.cursor.rest.length + 1) [] (scanner.cursor.advance 1)
  return { scanner with cursor, keyAllowed := false }.emit (.scalar (String.ofList text) false)

def readPlainScalar (scanner : Scanner) : Option Scanner := do
  let scanner ← scanner.markCandidate
  let (text, atLineStart, cursor) ←
    readPlain scanner.inFlow scanner.least (scanner.cursor.rest.length + 1) [] {} scanner.cursor
  return { scanner with cursor, keyAllowed := atLineStart }.emit (.scalar (String.ofList text) true)

/-- Characters that start no plain scalar, or only before another character. -/
def isIndicator (c : Char) : Bool := "-?:,[]{}#&*!|>'\"%@\x60".toList.contains c

def startsPlain (scanner : Scanner) (c : Char) : Bool :=
  let next := scanner.cursor.peekAt 1
  !(isGap (some c) || isIndicator c) || (c == '-' && !next.any isBlank) ||
    (!scanner.inFlow && (c == '?' || c == ':') && !isGap next)

/-- Reads a token. Anchors, aliases, tags and directives are not known. -/
def readToken (scanner : Scanner) (c : Char) : Option Scanner :=
  let beforeGap := isGap (scanner.cursor.peekAt 1)
  if scanner.cursor.isMarker '-' then scanner.readMarker .documentStart
  else if scanner.cursor.isMarker '.' then scanner.readMarker .documentEnd
  else if c = '[' then scanner.openFlow .flowSequence
  else if c = '{' then scanner.openFlow .flowMapping
  else if c = ']' then scanner.closeFlow .flowSequenceEnd
  else if c = '}' then scanner.closeFlow .flowMappingEnd
  else if c = ',' then scanner.readFlowEntry
  else if c = '-' ∧ beforeGap then scanner.readBlockEntry
  else if c = '?' ∧ (scanner.inFlow ∨ beforeGap) then scanner.readKey
  else if c = ':' ∧ (scanner.inFlow ∨ beforeGap) then scanner.readValue
  else if c = '|' ∧ !scanner.inFlow then scanner.readBlockScalar false
  else if c = '>' ∧ !scanner.inFlow then scanner.readBlockScalar true
  else if c = '\'' then scanner.readQuotedScalar false
  else if c = '"' then scanner.readQuotedScalar true
  else if scanner.startsPlain c then scanner.readPlainScalar
  else none

/-- Reads all tokens. Every token takes at least one character. -/
def run : Nat → Scanner → Option (Array Token)
  | 0, _ => none
  | fuel + 1, scanner =>
    let scanner := skipGap (scanner.cursor.rest.length + 1) scanner
    let scanner := if scanner.inFlow then scanner else scanner.closeBlocks (scanner.cursor.column < ·)
    match scanner.cursor.peek with
    | some c => scanner.readToken c >>= run fuel
    | none => (scanner.closeBlocks fun _ => true).dropCandidate.map Scanner.tokens

end Scanner

/-- The tokens of a text, if it is one. -/
def tokens? (text : String) : Option (List Token) :=
  let characters := text.toList
  if characters.all isPrintable then
    (Scanner.run (characters.length + 1) { cursor := { rest := characters } }).map Array.toList
  else none

end ScriptedTask.Yaml
