import ScriptedTask.Template.Action

/-! How a text falls apart into plain text and brace pairs. An action opens at the first two
opening braces and closes at the first two closing braces after them. The shape does not ask
whether what stands inside is a look-up. Filling in a text and listing the names in it are two walks
along the same openings and closings, so the one scan stands for both. -/

namespace ScriptedTask

inductive Shape where
  /-- Text without an opening. -/
  | text (rest : List Char)
  /-- Text, then an opening that nothing closes. -/
  | unclosed (before : List Char)
  /-- Text, then an action. -/
  | action (before inside : List Char) (after : Shape)
deriving DecidableEq

namespace Shape

/-- Scans outside an action, or inside one that comes after the given text. `done` is what was
read since, last character first. -/
def scan : Option (List Char) → List Char → List Char → Shape
  | none, done, '{' :: '{' :: rest => scan (some done.reverse) [] rest
  | none, done, c :: rest => scan none (c :: done) rest
  | none, done, [] => .text done.reverse
  | some before, done, '}' :: '}' :: rest => .action before done.reverse (scan none [] rest)
  | some before, done, c :: rest => scan (some before) (c :: done) rest
  | some before, _, [] => .unclosed before

def ofText (text : List Char) : Shape := scan none [] text

/-- The names of all actions that are look-ups, in order; others are passed over. -/
def names : Shape → List (List Char)
  | .text _ | .unclosed _ => []
  | .action _ inside after =>
    match Action.read? inside with
    | some lookUp => lookUp.name :: after.names
    | none => after.names

end Shape

/-- The names that a text refers to. -/
def referencedNames (text : String) : List String := (Shape.ofText text.toList).names.map String.ofList

end ScriptedTask
