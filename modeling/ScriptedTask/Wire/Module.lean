import ScriptedTask.Task.Basic
import ScriptedTask.Wire.Document
import ScriptedTask.Wire.Format

/-! The written form of modules and of what handlers hand back. A module may leave out any of its
fields; the others leave out none. -/

namespace ScriptedTask

open Wire

def DeleteInfo.fieldNames : List String := ["url", "userId"]

def DeleteInfo.decode? {α : Type} (format : Format α) (part : α) : Option DeleteInfo := do
  let fields ← format.fields? DeleteInfo.fieldNames part
  return { url := ← fields.required? "url" format.text?, userId := ← fields.required? "userId" format.text? }

def DeleteInfo.document (info : DeleteInfo) : Document :=
  .record [("url", .ofText info.url), ("userId", .ofText info.userId)]

namespace Module

def fieldNames : List String := ["id", "processInstanceId", "moduleType", "moduleData", "keys", "deleteInfo"]

def decode? {α : Type} (format : Format α) (part : α) : Option Module := do
  let fields ← format.fields? fieldNames part
  return {
    id := ← fields.orElse? "id" "" format.text?
    instanceId := ← fields.orElse? "processInstanceId" "" format.text?
    moduleType := ← fields.orElse? "moduleType" "" format.text?
    data := ← fields.orElse? "moduleData" SortedMap.empty format.values?
    keys := ← fields.orElse? "keys" [] (format.list? format.text?)
    deleteInfo := ← fields.orElse? "deleteInfo" none (format.optional? (DeleteInfo.decode? format)) }

/-- The deletion is written only if there is one. -/
def document (module : Module) : Document :=
  .record ([("id", .ofText module.id), ("processInstanceId", .ofText module.instanceId),
    ("moduleType", .ofText module.moduleType), ("moduleData", .value (.object module.data)),
    ("keys", .list (module.keys.map .ofText))] ++
    match module.deleteInfo with
    | some info => [("deleteInfo", info.document)]
    | none => [])

end Module

namespace Outcome

def fieldNames : List String := ["modules", "outputs"]

def decode? {α : Type} (format : Format α) (part : α) : Option Outcome := do
  let fields ← format.fields? fieldNames part
  return {
    modules := ← fields.required? "modules" (format.list? (Module.decode? format))
    outputs := ← fields.required? "outputs" format.values? }

def document (outcome : Outcome) : Document :=
  .record [("modules", .list (outcome.modules.map Module.document)), ("outputs", .value (.object outcome.outputs))]

end Outcome
end ScriptedTask
