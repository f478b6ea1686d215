import ScriptedTask.Json.Printer

/-! Documents to be written. The fields of a record keep the order in which they are declared,
whereas the members of a value are always in ascending order. -/

namespace ScriptedTask.Wire

inductive Document where
  | value (plain : Json)
  | list (items : List Document)
  | record (fields : List (String × Document))

namespace Document

def ofText (text : String) : Document := .value (.string text)

mutual
/-- The text without blanks. -/
def compact : Document → List Char
  | .value plain => plain.compact
  | .list [] => ['[', ']']
  | .list (item :: rest) => '[' :: compact item ++ compactItems rest
  | .record [] => ['{', '}']
  | .record ((name, content) :: rest) =>
    '{' :: Json.quote name.toList ++ ':' :: compact content ++ compactFields rest

/-- What follows the first item of a list. -/
def compactItems : List Document → List Char
  | [] => [']']
  | item :: rest => ',' :: compact item ++ compactItems rest

/-- What follows the first field of a record. -/
def compactFields : List (String × Document) → List Char
  | [] => ['}']
  | (name, content) :: rest =>
    ',' :: Json.quote name.toList ++ ':' :: compact content ++ compactFields rest
end

def text (document : Document) : String := String.ofList document.compact

mutual
/-- The same document as a value, which forgets the order of fields. -/
def toJson : Document → Json
  | .value plain => plain
  | .list items => .array (itemsToJson items)
  | .record fields => .object (SortedMap.ofList (fieldsToJson fields))

def itemsToJson : List Document → List Json
  | [] => []
  | item :: rest => toJson item :: itemsToJson rest

def fieldsToJson : List (String × Document) → List (String × Json)
  | [] => []
  | (name, content) :: rest => (name, toJson content) :: fieldsToJson rest
end

end Document
end ScriptedTask.Wire
