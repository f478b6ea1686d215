import ScriptedTask.Text.Blank
import ScriptedTask.Text.Letter

/-! What stands between the braces of a template action: blanks, a point and a name. A minus
sign that a plain blank separates from the rest marks the side on which the surrounding text
loses its blanks. -/

namespace ScriptedTask

def isNameStart (c : Char) : Bool := Text.isLetter c || c == '_'

def isNameRest (c : Char) : Bool := Text.isLetter c || Text.isDecimalDigit c || c == '_'

/-- Letters, digits and underscores, and not a digit first. -/
def isName : List Char → Bool
  | [] => false
  | c :: rest => isNameStart c && rest.all isNameRest

/-- A look-up of `name`; the flags say whether the text before and after loses its blanks. -/
structure Action where
  name : List Char
  trimsBefore : Bool
  trimsAfter : Bool
deriving DecidableEq

namespace Action

/-- Takes off a minus sign at the front if a plain blank follows it. -/
def takeMarker : List Char → Bool × List Char
  | '-' :: c :: rest => if Text.isPlainBlank c then (true, c :: rest) else (false, '-' :: c :: rest)
  | inside => (false, inside)

/-- The name in blanks, point, name, blanks. -/
def lookedUp? (body : List Char) : Option (List Char) :=
  match body.dropWhile Text.isBlank with
  | '.' :: rest =>
    let name := rest.takeWhile isNameRest
    if isName name && (rest.dropWhile isNameRest).all Text.isBlank then some name else none
  | _ => none

def read? (inside : List Char) : Option Action :=
  let (trimsBefore, inside) := takeMarker inside
  let (trimsAfter, reversed) := takeMarker inside.reverse
  (lookedUp? reversed.reverse).map fun name => ⟨name, trimsBefore, trimsAfter⟩

end Action
end ScriptedTask
