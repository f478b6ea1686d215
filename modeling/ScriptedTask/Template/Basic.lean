import ScriptedTask.Json.Printer
import ScriptedTask.Template.Shape
import ScriptedTask.Text.Bytes

/-! Templates are texts whose actions are all look-ups. Whether a text is one, and where it
fails to be, depends on the text alone; filling a template in cannot fail. Filled-in text is
not scanned again. -/

namespace ScriptedTask

/-- Offsets count the bytes before the opening braces. -/
inductive TemplateError where
  | unclosed (offset : Nat)
  | unsupportedAction (action : String) (offset : Nat)
deriving DecidableEq

def TemplateError.message : TemplateError → String
  | .unclosed offset => "unclosed action starting at byte " ++ toString offset
  | .unsupportedAction action offset =>
    "unsupported action '\x7b\x7b" ++ action ++ "\x7d\x7d' at byte " ++ toString offset ++
      "; expected '\x7b\x7b.name\x7d\x7d'"

inductive Template where
  | text (rest : List Char)
  | action (before : List Char) (lookUp : Action) (after : Template)
deriving DecidableEq

/-- The texts that names stand for. -/
abbrev Placeholders := SortedMap String

namespace Template

/-- A template whose shape starts at the given offset. -/
def ofShape (offset : Nat) : Shape → Except TemplateError Template
  | .text rest => .ok (.text rest)
  | .unclosed before => .error (.unclosed (offset + Text.byteCount before))
  | .action before inside after =>
    let opening := offset + Text.byteCount before
    match Action.read? inside with
    | none => .error (.unsupportedAction (String.ofList (Text.trimBlanks inside)) opening)
    | some lookUp => (ofShape (opening + 2 + Text.byteCount inside + 2) after).map (.action before lookUp)

def parse (text : String) : Except TemplateError Template := ofShape 0 (Shape.ofText text.toList)

/-- The names looked up, in order. -/
def names : Template → List String
  | .text _ => []
  | .action _ lookUp after => String.ofList lookUp.name :: after.names

def trimBefore (trims : Bool) (text : List Char) : List Char :=
  if trims then text.dropWhile Text.isPlainBlank else text

def trimAfter (trims : Bool) (text : List Char) : List Char :=
  if trims then Text.dropTrailing Text.isPlainBlank text else text

def lookUp (placeholders : Placeholders) (name : List Char) : List Char :=
  ((placeholders.get? (String.ofList name)).getD "").toList

/-- Replaces each action by the text of its name, or by nothing for a name without text. `trims`
says whether the action before asked for the blanks that come first to go. -/
def fill (placeholders : Placeholders) (trims : Bool) : Template → List Char
  | .text rest => trimBefore trims rest
  | .action before found after =>
    trimAfter found.trimsBefore (trimBefore trims before) ++ lookUp placeholders found.name ++
      fill placeholders found.trimsAfter after

end Template

namespace Placeholders

/-- Strings stand for themselves, everything else for its compact text. -/
def textOf : Json → String
  | .string text => text
  | value => value.text

/-- The variables, with the two names for the brace pairs, which no variable can take. -/
def ofVariables (values : Values) : Placeholders :=
  ((values.mapValues textOf).insert "brl" "\x7b\x7b").insert "brr" "\x7d\x7d"

def render (placeholders : Placeholders) (text : String) : Except TemplateError String :=
  (Template.parse text).map fun template => String.ofList (template.fill placeholders false)

/-- The names that rendering looks up without finding them, in order and with repeats. -/
def missing (placeholders : Placeholders) (text : String) : List String :=
  match Template.parse text with
  | .ok template => template.names.filter fun name => !placeholders.contains name
  | .error _ => []

end Placeholders
end ScriptedTask
