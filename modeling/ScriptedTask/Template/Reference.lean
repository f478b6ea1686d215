/-! Reference tokens: a name between the braces of a look-up. Any text can be a name here; what
comes between the two ends is the name, whatever it holds. -/

namespace ScriptedTask

inductive ReferenceError where
  | missingFront (reference : String)
  | missingEnd (reference : String)
deriving DecidableEq

def ReferenceError.message : ReferenceError → String
  | .missingFront reference =>
    "'" ++ reference ++ "' is not a valid reference: missing '\x7b\x7b.' prefix"
  | .missingEnd reference =>
    "'" ++ reference ++ "' is not a valid reference: missing '\x7d\x7d' suffix"

namespace Reference

def front : List Char := ['{', '{', '.']

def ending : List Char := ['}', '}']

/-- The token that refers to a name. -/
def token (name : String) : String := String.ofList (front ++ name.toList ++ ending)

/-- The name that a token refers to. The front is looked at first. -/
def parse (reference : String) : Except ReferenceError String :=
  let text := reference.toList
  if !front.isPrefixOf text then .error (.missingFront reference)
  else if !ending.isSuffixOf text then .error (.missingEnd reference)
  else .ok (String.ofList ((text.take (text.length - 2)).drop 3))

end Reference
end ScriptedTask
