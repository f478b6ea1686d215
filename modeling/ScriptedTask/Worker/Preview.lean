import ScriptedTask.Pipeline.Basic
import ScriptedTask.Template.Reference

/-! What the inputs of a task would become, without running any script. -/

namespace ScriptedTask

structure Preview where
  inputs : Values
  /-- The names that inputs refer to and nothing is bound to, in ascending order. -/
  unknown : List String

namespace Preview

def toJson (preview : Preview) : Json :=
  .object (SortedMap.ofList [("inputs", .object preview.inputs),
    ("unknownReferences", .array (preview.unknown.map .string))])

/-- The names that a string refers to. -/
def namesIn (value : Json) : List String :=
  match value with
  | .string text => referencedNames text
  | _ => []

/-- The names that are always bound. -/
def isFixed (name : String) : Bool := name == "brl" || name == "brr"

def unknownNames (inputs : Inputs) (values : Values) : List String :=
  let names := inputs.entries.flatMap fun entry => namesIn entry.2.value
  let unbound := names.filter fun name => !values.contains name && !isFixed name
  (SortedMap.ofList (unbound.map fun name => (name, ()))).keys

def ofVariables (task : Task) (values : Values) : Except Failure Preview :=
  match task.inputs.substitute values with
  | .ok changed => .ok ⟨changed.values, unknownNames task.inputs values⟩
  | .error problem => .error problem.failure

def ofTask {m : Type → Type} [Monad m] (repository : Repository m) (task : Task) : m (Except Failure Preview) := do
  match ← repository.load task.instanceId with
  | .ok values => return ofVariables task values
  | .error problem => return .error problem

end Preview
end ScriptedTask
