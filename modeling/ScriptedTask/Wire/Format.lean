import ScriptedTask.Json.Part

/-! Reading records. A record is written as a mapping from the names of its fields; members that
are no fields are passed over, and no field may be given twice. Where the format allows it, a
record may also be written as the list of its fields from the first one on. -/

namespace ScriptedTask.Wire

/-- How to look into the parts `α` of a written document. -/
structure Format (α : Type) where
  members? : α → Option (List (String × α))
  items? : α → Option (List α)
  text? : α → Option String
  isNull : α → Bool
  value? : α → Option Json

/-- The fields of a record that were given. -/
abbrev Fields (α : Type) := List (String × α)

namespace Format

variable {α β : Type}

def fields? (format : Format α) (names : List String) (part : α) : Option (Fields α) :=
  match format.members? part with
  | some members =>
    let known := members.filter fun member => names.contains member.1
    if (known.map Prod.fst).Nodup then some known else none
  | none => do
    let items ← format.items? part
    if items.length ≤ names.length then some (names.zip items) else none

/-- Nothing for null. -/
def optional? (format : Format α) (decode? : α → Option β) (part : α) : Option (Option β) :=
  if format.isNull part then some none else (decode? part).map some

def list? (format : Format α) (decode? : α → Option β) (part : α) : Option (List β) := do
  let items ← format.items? part
  items.mapM decode?

/-- A mapping from names, in the order in which it was written. -/
def entries? (format : Format α) (decode? : α → Option β) (part : α) : Option (List (String × β)) := do
  let members ← format.members? part
  members.mapM fun member => return (member.1, ← decode? member.2)

def values? (format : Format α) (part : α) : Option Values :=
  (format.entries? format.value? part).map SortedMap.ofList

end Format

namespace Fields

variable {α β : Type}

def required? (fields : Fields α) (name : String) (decode? : α → Option β) : Option β :=
  fields.lookup name >>= decode?

/-- A field that is absent has its default. -/
def orElse? (fields : Fields α) (name : String) (default : β) (decode? : α → Option β) : Option β :=
  match fields.lookup name with
  | some part => decode? part
  | none => some default

end Fields

/-- The format in which services exchange documents. -/
def jsonFormat : Format Json.Part where
  members? := Json.Part.members?
  items? := Json.Part.items?
  text? part :=
    match part.value? with
    | some (.string text) => some text
    | _ => none
  isNull part :=
    match part.value? with
    | some .null => true
    | _ => false
  value? := Json.Part.value?

end ScriptedTask.Wire
