import ScriptedTask.Task.Basic
import ScriptedTask.Wire.Document
import ScriptedTask.Wire.Format

/-! The written form of tasks. All fields of a task and of an input may be left out. -/

namespace ScriptedTask

open Wire

def TaskInput.fieldNames : List String := ["value", "type"]

def TaskInput.decode? {α : Type} (format : Format α) (part : α) : Option TaskInput := do
  let fields ← format.fields? TaskInput.fieldNames part
  return {
    value := ← fields.orElse? "value" .null format.value?
    typeTag := ← fields.orElse? "type" none (format.optional? format.text?) }

/-- The type tag is written only if there is one. -/
def TaskInput.document (input : TaskInput) : Document :=
  .record (("value", .value input.value) ::
    match input.typeTag with
    | some tag => [("type", .ofText tag)]
    | none => [])

/-- Of two inputs with one name the later one counts, in the place of the first. -/
def Inputs.decode? {α : Type} (format : Format α) (part : α) : Option Inputs :=
  (format.entries? (TaskInput.decode? format) part).map Inputs.ofList

def Inputs.document (inputs : Inputs) : Document :=
  .record (inputs.entries.map fun entry => (entry.1, entry.2.document))

def Task.fieldNames : List String := ["id", "processInstanceId", "variables"]

def Task.decode? {α : Type} (format : Format α) (part : α) : Option Task := do
  let fields ← format.fields? Task.fieldNames part
  return {
    id := ← fields.orElse? "id" "" format.text?
    instanceId := ← fields.orElse? "processInstanceId" "" format.text?
    inputs := ← fields.orElse? "variables" Inputs.empty (Inputs.decode? format) }

def Task.document (task : Task) : Document :=
  .record [("id", .ofText task.id), ("processInstanceId", .ofText task.instanceId),
    ("variables", task.inputs.document)]

end ScriptedTask
