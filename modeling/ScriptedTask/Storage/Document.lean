import ScriptedTask.Failure
import ScriptedTask.Json.Printer
import ScriptedTask.Storage.Access
import ScriptedTask.Storage.Path

/-! Documents kept in files. A change is written to a file beside the document, which then takes
its place, so whoever reads the document meets it either before or after the change. Paths lead
to files and directories only: there are no links between them. -/

namespace ScriptedTask

/-- How documents are written, and which one stands for a file that is not there. -/
structure Codec (α : Type) where
  decode? : String → Option α
  encode : α → Json
  initial : α

inductive DocumentError where
  | access (path reason : String)
  | serialization (path reason : String)
deriving DecidableEq

namespace DocumentError

def reason : DocumentError → String
  | access _ reason => reason
  | serialization _ reason => reason

def message : DocumentError → String
  | access path reason => "store I/O error at '" ++ path ++ "': " ++ reason
  | serialization path reason => "store serialization error at '" ++ path ++ "': " ++ reason

def failure (problem : DocumentError) : Failure := ⟨problem.message, [problem.reason]⟩

end DocumentError

structure DocumentStore (α : Type) where
  path : String
  codec : Codec α

namespace DocumentStore

variable {m : Type → Type} [Monad m] {α β : Type}

/-- Stands for what the reader of documents says about a text that it cannot read. -/
def malformed : String := "malformed document"

def decode (store : DocumentStore α) (text : String) : Except DocumentError α :=
  match store.codec.decode? text with
  | some document => .ok document
  | none => .error (.serialization store.path malformed)

def read (files : FileAccess m) (store : DocumentStore α) : m (Except DocumentError α) := do
  match ← files.read store.path with
  | .ok text => return store.decode text
  | .error (.missing _) => return .ok store.codec.initial
  | .error (.other reason) => return .error (.access store.path reason)

/-- Where a change is written before it counts. -/
def temporaryPath (store : DocumentStore α) : String := Path.withExtension store.path "json.tmp"

/-- Makes the directories above the document. -/
def prepare (files : FileAccess m) (store : DocumentStore α) : m (Except FileError Unit) :=
  match Path.parent? store.path with
  | some directory => if directory.isEmpty then pure (.ok ()) else files.makeDirectories directory
  | none => pure (.ok ())

def replace (files : FileAccess m) (store : DocumentStore α) (text : String) : m (Except FileError Unit) :=
  ExceptT.run do
    ExceptT.mk (store.prepare files)
    ExceptT.mk (files.write store.temporaryPath text)
    ExceptT.mk (files.rename store.temporaryPath store.path)

/-- Changes the document, and hands back what the change finds on the way. -/
def update (files : FileAccess m) (store : DocumentStore α) (change : α → β × α) :
    m (Except DocumentError β) := do
  match ← store.read files with
  | .error problem => return .error problem
  | .ok document =>
    let (found, changed) := change document
    match ← store.replace files (store.codec.encode changed).prettyText with
    | .ok () => return .ok found
    | .error problem => return .error (.access store.path problem.reason)

end DocumentStore
end ScriptedTask
