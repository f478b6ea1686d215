import ScriptedTask.Script.Builtin.Basic
import ScriptedTask.Text.Case

/-! Functions on texts. Positions count units. -/

namespace ScriptedTask.Script

open Text (Units)

namespace Eval

/-- The text that a method works on. -/
def ownText (invocation : Invocation) : Eval Units := do
  match invocation.this with
  | .text units => return units
  | .undefined | .null => raiseType "Cannot convert undefined or null to object"
  | other => toText other

/-- The text occurs at a position. -/
def occursAt (text pattern : Units) (start : Nat) : Bool :=
  start + pattern.size ≤ text.size && (text.extract start (start + pattern.size)) == pattern

/-- Where a text first occurs at or after a position. `fuel` bounds the places that are tried. -/
def findText (text pattern : Units) : Nat → Nat → Option Nat
  | 0, _ => none
  | fuel + 1, start =>
    if text.size < start + pattern.size then none
    else if occursAt text pattern start then some start
    else findText text pattern fuel (start + 1)

def indexIn (text pattern : Units) (start : Nat) : Option Nat := findText text pattern (text.size + 1) start

/-- Where a text last occurs at or before a position. -/
def lastIndexIn (text pattern : Units) : Nat → Option Nat
  | 0 => if occursAt text pattern 0 then some 0 else none
  | start + 1 => if occursAt text pattern (start + 1) then some (start + 1) else lastIndexIn text pattern start

/-- A position kept within a text, without counting from the end. -/
def within (length : Nat) (value : Value) (absent : Nat) : Eval Nat := do
  match value with
  | .undefined => return absent
  | _ => return min (← toInteger value).toNat length

def textIndexOf (invocation : Invocation) : Eval Value := do
  let text ← ownText invocation
  let pattern ← toText (invocation.argument 0)
  let start ← within text.size (invocation.argument 1) 0
  spend (text.size / 64)
  return indexValue (indexIn text pattern start)

def textLastIndexOf (invocation : Invocation) : Eval Value := do
  let text ← ownText invocation
  let pattern ← toText (invocation.argument 0)
  let start ← toNumber (invocation.argument 1)
  let start := if start.isNaN then text.size else min (clamp start).toNat text.size
  return indexValue (lastIndexIn text pattern start)

def textIncludes (invocation : Invocation) : Eval Value := do
  let text ← ownText invocation
  let pattern ← toText (invocation.argument 0)
  return .bool (indexIn text pattern (← within text.size (invocation.argument 1) 0)).isSome

def textStartsWith (invocation : Invocation) : Eval Value := do
  let text ← ownText invocation
  let pattern ← toText (invocation.argument 0)
  return .bool (occursAt text pattern (← within text.size (invocation.argument 1) 0))

def textEndsWith (invocation : Invocation) : Eval Value := do
  let text ← ownText invocation
  let pattern ← toText (invocation.argument 0)
  let stop ← within text.size (invocation.argument 1) text.size
  return .bool (pattern.size ≤ stop && occursAt text pattern (stop - pattern.size))

def unitAt? (text : Units) (index : Int) : Option UInt16 := if index < 0 then none else text[index.toNat]?

def textCharAt (invocation : Invocation) : Eval Value := do
  let text ← ownText invocation
  return .text ((unitAt? text (← toInteger (invocation.argument 0))).elim #[] fun unit => #[unit])

def textCodeAt (invocation : Invocation) : Eval Value := do
  let text ← ownText invocation
  match unitAt? text (← toInteger (invocation.argument 0)) with
  | some unit => return .int unit.toNat
  | none => return .number Num.nan

def textCodePointAt (invocation : Invocation) : Eval Value := do
  let text ← ownText invocation
  let index ← toInteger (invocation.argument 0)
  match unitAt? text index, unitAt? text (index + 1) with
  | some high, some low =>
    if Units.isHighSurrogate high && Units.isLowSurrogate low then return .int (Units.pair high low).toNat
    else return .int high.toNat
  | some unit, none => return .int unit.toNat
  | none, _ => return .undefined

def textAt (invocation : Invocation) : Eval Value := do
  let text ← ownText invocation
  let index ← toInteger (invocation.argument 0)
  match unitAt? text (if index < 0 then index + text.size else index) with
  | some unit => return .text #[unit]
  | none => return .undefined

def textConcat (invocation : Invocation) : Eval Value := do
  let mut text ← ownText invocation
  for part in invocation.arguments do text ← concat text (← toText part)
  return .text text

def textSlice (invocation : Invocation) : Eval Value := do
  let text ← ownText invocation
  let start ← position text.size (invocation.argument 0) 0
  let stop ← position text.size (invocation.argument 1) text.size
  return .text (text.extract start stop)

def textSubstring (invocation : Invocation) : Eval Value := do
  let text ← ownText invocation
  let one ← within text.size (invocation.argument 0) 0
  let other ← within text.size (invocation.argument 1) text.size
  return .text (text.extract (min one other) (max one other))

def textSubstr (invocation : Invocation) : Eval Value := do
  let text ← ownText invocation
  let start ← position text.size (invocation.argument 0) 0
  let count ← within (text.size - start) (invocation.argument 1) (text.size - start)
  return .text (text.extract start (start + count))

/-- Pieces between the places where a text occurs. `fuel` bounds their number. -/
def splitAt (text pattern : Units) : Nat → Nat → List Units → List Units
  | 0, start, done => (text.extract start text.size :: done).reverse
  | fuel + 1, start, done =>
    match indexIn text pattern start with
    | some found => splitAt text pattern fuel (found + pattern.size) (text.extract start found :: done)
    | none => (text.extract start text.size :: done).reverse

def textSplit (invocation : Invocation) : Eval Value := do
  let text ← ownText invocation
  let most ← match invocation.given? 1 with
    | some limit => do pure (← toNumber limit).toUInt32.toNat
    | none => pure (0x100000000 - 1)
  spend (text.size / 16)
  match invocation.given? 0 with
  | none => newArray ([Value.text text].take most)
  | some separator =>
    let separator ← toText separator
    let parts := if separator.isEmpty then text.toList.map fun unit => #[unit]
      else splitAt text separator (text.size + 1) 0 []
    newArray ((parts.take most).map .text)

/-- A replacement with its marks filled in: the match, what is before it and what is after. -/
def fillReplacement (text : Units) (start size : Nat) : List UInt16 → List UInt16
  | 36 :: 36 :: rest => 36 :: fillReplacement text start size rest
  | 36 :: 38 :: rest => (text.extract start (start + size)).toList ++ fillReplacement text start size rest
  | 36 :: 96 :: rest => (text.extract 0 start).toList ++ fillReplacement text start size rest
  | 36 :: 39 :: rest => (text.extract (start + size) text.size).toList ++ fillReplacement text start size rest
  | unit :: rest => unit :: fillReplacement text start size rest
  | [] => []

def replacementFor (text pattern : Units) (start : Nat) (by_ : Value) : Eval Units := do
  if ← look fun heap => heap.isFunction by_ then
    toText (← call by_ .undefined [.text pattern, .int start, .text text])
  else return (fillReplacement text start pattern.size (← toText by_).toList).toArray

/-- Replaces a text where it occurs, the first time or every time. `fuel` bounds how often. -/
def replaceFrom (text pattern : Units) (by_ : Value) (all : Bool) : Nat → Nat → Nat → Units → Eval Units
  | 0, start, _, done => return done ++ text.extract start text.size
  | fuel + 1, start, search, done => do
    match indexIn text pattern search with
    | none => return done ++ text.extract start text.size
    | some found =>
      let replacement ← replacementFor text pattern found by_
      let done := done ++ text.extract start found ++ replacement
      let start := found + pattern.size
      if all then replaceFrom text pattern by_ all fuel start (max start (found + 1)) done
      else return done ++ text.extract start text.size

def textReplace (all : Bool) (invocation : Invocation) : Eval Value := do
  let text ← ownText invocation
  let pattern ← toText (invocation.argument 0)
  let by_ := invocation.argument 1
  let by_ ← if ← look fun heap => heap.isFunction by_ then pure by_ else Value.text <$> toText by_
  return .text (← replaceFrom text pattern by_ all (text.size + 1) 0 0 #[])

def textRepeat (invocation : Invocation) : Eval Value := do
  let text ← ownText invocation
  let count ← toNumber (invocation.argument 0)
  if !count.isFinite && !count.isNaN || count.lt (.int 0) && clamp count < 0 || 0x80000000 - 1 < clamp count then
    raiseRange "invalid repeat count"
  let count := (clamp count).toNat
  if text.isEmpty then return .text #[]
  checkText (text.size * count)
  return .text ((List.replicate count text).foldl (· ++ ·) #[])

/-- Filling of a size, made of a text over and over. -/
def padding (filler : Units) (size : Nat) : Units :=
  ((List.replicate (size / filler.size + 1) filler).foldl (· ++ ·) #[]).take size

def textPad (atStart : Bool) (invocation : Invocation) : Eval Value := do
  let text ← ownText invocation
  let size := (← toInteger (invocation.argument 0)).toNat
  let filler ← match invocation.given? 1 with
    | some filler => toText filler
    | none => pure #[32]
  if size ≤ text.size || filler.isEmpty then return .text text
  checkText size
  let added := padding filler (size - text.size)
  return .text (if atStart then added ++ text else text ++ added)

def isTrimmed (unit : UInt16) : Bool :=
  let c := Char.ofNat unit.toNat
  (Text.isBlank c && c != '\x85') || c == '\ufeff'

def textTrim (atStart atEnd : Bool) (invocation : Invocation) : Eval Value := do
  let text := (← ownText invocation).toList
  let text := if atStart then text.dropWhile isTrimmed else text
  let text := if atEnd then (text.reverse.dropWhile isTrimmed).reverse else text
  return .text text.toArray

/-- Changes every character of a text; surrogates that stand alone stay. -/
def mapCharacters (f : Char → List Char) (text : Units) : Units :=
  ((Units.spell text.toList).flatMap fun
    | .inl c => Units.encode (f c)
    | .inr unit => [unit]).toArray

def textCase (f : Char → List Char) (invocation : Invocation) : Eval Value := do
  let text ← ownText invocation
  spend (text.size / 16)
  return .text (mapCharacters f text)

def textCompare (invocation : Invocation) : Eval Value := do
  let left := (← ownText invocation).toList
  let right := (← toText (invocation.argument 0)).toList
  return .int (if Units.lt left right then -1 else if Units.lt right left then 1 else 0)

/-- The text of a text, boxed or not. -/
def textValue (invocation : Invocation) : Eval Value := do
  match invocation.this with
  | .text _ => return invocation.this
  | .object id =>
    match (← look fun heap => heap.object id).kind with
    | .boxed (.text units) => return .text units
    | _ => raiseType "not a string"
  | _ => raiseType "not a string"

def textOfCodes (invocation : Invocation) : Eval Value := do
  let units ← invocation.arguments.mapM fun code => do return UInt16.ofNat ((← toNumber code).toUInt32.toNat % 65536)
  return .text units.toArray

def textOfPoints (invocation : Invocation) : Eval Value := do
  let units ← invocation.arguments.mapM fun code => do
    match ← toNumber code with
    | .int point =>
      if 0 ≤ point ∧ point < 0x10000 then return [UInt16.ofNat point.toNat]
      else if 0 ≤ point ∧ point ≤ 0x10FFFF then return Units.ofChar (Char.ofNat point.toNat)
      else raiseRange "invalid code point"
    | .real _ => raiseRange "invalid code point"
  return .text units.flatten.toArray

def makeText (invocation : Invocation) : Eval Value := do
  let text ← match invocation.arguments with
    | [] => pure #[]
    | value :: _ => toText value
  if invocation.isNew then return .object (← toObject (.text text)) else return .text text

def textConstructor : Builtin := ⟨Place.globals, "String", 1, makeText, some Place.stringParent⟩

def onTexts (name : String) (length : Nat) (run : Invocation → Eval Value) : Builtin :=
  ⟨Place.stringParent, name, length, run, none⟩

def textBuiltins : List Builtin := [
  onTexts "indexOf" 1 textIndexOf, onTexts "lastIndexOf" 1 textLastIndexOf, onTexts "includes" 1 textIncludes,
  onTexts "startsWith" 1 textStartsWith, onTexts "endsWith" 1 textEndsWith, onTexts "charAt" 1 textCharAt,
  onTexts "charCodeAt" 1 textCodeAt, onTexts "codePointAt" 1 textCodePointAt, onTexts "at" 1 textAt,
  onTexts "concat" 1 textConcat, onTexts "slice" 2 textSlice, onTexts "substring" 2 textSubstring,
  onTexts "substr" 2 textSubstr, onTexts "split" 2 textSplit, onTexts "replace" 2 (textReplace false),
  onTexts "replaceAll" 2 (textReplace true), onTexts "repeat" 1 textRepeat,
  onTexts "padStart" 1 (textPad true), onTexts "padEnd" 1 (textPad false),
  onTexts "trim" 0 (textTrim true true), onTexts "trimStart" 0 (textTrim true false),
  onTexts "trimEnd" 0 (textTrim false true), onTexts "toUpperCase" 0 (textCase Text.toUpper),
  onTexts "toLowerCase" 0 (textCase Text.toLower), onTexts "localeCompare" 1 textCompare,
  onTexts "toString" 0 textValue, onTexts "valueOf" 0 textValue,
  ⟨Place.stringFunction, "fromCharCode", 1, textOfCodes, none⟩,
  ⟨Place.stringFunction, "fromCodePoint", 1, textOfPoints, none⟩]

end Eval
end ScriptedTask.Script
