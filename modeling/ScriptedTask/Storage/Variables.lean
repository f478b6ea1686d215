import ScriptedTask.Pipeline.Basic
import ScriptedTask.Storage.Document
import ScriptedTask.Wire.Format

/-! The variables of process instances in a file. The document maps each instance to its own
variables. -/

namespace ScriptedTask.VariableFile

open Wire

abbrev Document := SortedMap Values

def decode? (text : String) : Option Document := do
  let part ← Json.Part.ofText? text
  (jsonFormat.entries? jsonFormat.values? part).map SortedMap.ofList

def encode (document : Document) : Json := .object (document.mapValues .object)

def codec : Codec Document := ⟨decode?, encode, SortedMap.empty⟩

def store (path : String) : DocumentStore Document := ⟨path, codec⟩

/-- The variables of an instance; none for one that the document does not hold. -/
def variablesOf (document : Document) (instanceId : String) : Values :=
  (document.get? instanceId).getD SortedMap.empty

/-- Lays changes over the variables of an instance. -/
def merge (document : Document) (instanceId : String) (changes : Values) : Document :=
  document.insert instanceId ((variablesOf document instanceId).overlay changes)

def repository {m : Type → Type} [Monad m] (files : FileAccess m) (path : String) : Repository m where
  load instanceId := do
    match ← (store path).read files with
    | .ok document => return .ok (variablesOf document instanceId)
    | .error problem => return .error problem.failure
  store instanceId changes := do
    match ← (store path).update files fun document => ((), merge document instanceId changes) with
    | .ok () => return .ok ()
    | .error problem => return .error problem.failure

end ScriptedTask.VariableFile
