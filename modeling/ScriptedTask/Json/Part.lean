import ScriptedTask.Json.Parser

/-! Texts read part by part. A part is a stretch of text that holds one value. What it holds is
looked at only when it is asked for, so a part that nobody asks for may nest without limit,
and may hold numbers and surrogates that no value has. -/

namespace ScriptedTask.Json

/-- Passes over a string after its opening quote. -/
def skipString : Reader Unit
  | [] => malformed []
  | '"' :: rest => .ok ((), rest)
  | '\\' :: 'u' :: a :: b :: c :: d :: rest =>
    match hex4? a b c d with
    | some _ => skipString rest
    | none => malformed rest
  | '\\' :: c :: rest =>
    match simpleEscape? c with
    | some _ => skipString rest
    | none => malformed rest
  | c :: rest => if c < ' ' then malformed rest else skipString rest

/-- Passes over the name of a member and the colon after it. -/
def skipName : Reader Unit := fun text =>
  match skipBlanks text with
  | '"' :: rest => do
    let ((), rest) ← skipString rest
    match skipBlanks rest with
    | ':' :: rest => return ((), rest)
    | rest => malformed rest
  | rest => malformed rest

def passed {α : Type} (result : Except Failure (α × List Char)) : Except Failure (Unit × List Char) :=
  result.map fun (_, rest) => ((), rest)

/-- Passes over a value. `fuel` bounds the nesting of arrays and objects. -/
def skip : Nat → Reader Unit
  | 0, text => malformed text
  | fuel + 1, text =>
    match skipBlanks text with
    | 'n' :: 'u' :: 'l' :: 'l' :: rest => .ok ((), rest)
    | 't' :: 'r' :: 'u' :: 'e' :: rest => .ok ((), rest)
    | 'f' :: 'a' :: 'l' :: 's' :: 'e' :: rest => .ok ((), rest)
    | '"' :: rest => skipString rest
    | '[' :: rest =>
      match skipBlanks rest with
      | ']' :: rest => .ok ((), rest)
      | rest => passed (items (skip fuel) rest.length [] rest)
    | '{' :: rest =>
      match skipBlanks rest with
      | '}' :: rest => .ok ((), rest)
      | rest => passed (members skipName (skip fuel) rest.length [] rest)
    | rest => passed (lexeme rest)

/-- A stretch of text with one value, in which arrays and objects may nest `depth` deep. -/
structure Part where
  depth : Nat
  text : List Char

namespace Part

def read (depth : Nat) : Reader Part := fun text => do
  let ((), rest) ← skip (text.length + 1) text
  return (⟨depth, text.take (text.length - rest.length)⟩, rest)

/-- A text that holds one value and nothing after it. -/
def ofText? (text : String) : Option Part :=
  match read nestingLimit text.toList with
  | .ok (part, rest) => if (skipBlanks rest).isEmpty then some part else none
  | .error _ => none

/-- The value, if there is one. -/
def value? (part : Part) : Option Json := (readWithin part.depth part.text).toOption

/-- The members of an object in the order in which they were written. -/
def members? (part : Part) : Option (List (String × Part)) :=
  match part.depth, skipBlanks part.text with
  | inner + 1, '{' :: rest =>
    match skipBlanks rest with
    | '}' :: _ => some []
    | rest => (members memberName (read inner) rest.length [] rest).toOption.map Prod.fst
  | _, _ => none

/-- The items of an array. -/
def items? (part : Part) : Option (List Part) :=
  match part.depth, skipBlanks part.text with
  | inner + 1, '[' :: rest =>
    match skipBlanks rest with
    | ']' :: _ => some []
    | rest => (items (read inner) rest.length [] rest).toOption.map Prod.fst
  | _, _ => none

end Part
end ScriptedTask.Json
