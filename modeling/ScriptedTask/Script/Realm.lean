import ScriptedTask.Capability.Session
import ScriptedTask.Script.Builtin.Arrays
import ScriptedTask.Script.Builtin.Data
import ScriptedTask.Script.Builtin.Numbers
import ScriptedTask.Script.Builtin.Objects
import ScriptedTask.Script.Builtin.Texts

/-! The heap that every script starts with: the built-in objects, and the globals that its
surroundings answer. -/

namespace ScriptedTask.Script

open Text (Units)

namespace Realm

open Eval

/-- Functions that are members of their holders. Those that construct come first. -/
def methods : List Builtin :=
  [objectConstructor, functionConstructor, arrayConstructor, textConstructor, numberConstructor,
    truthConstructor] ++ errorConstructors ++ objectBuiltins ++ functionBuiltins ++ arrayBuiltins ++
    textBuiltins ++ numberBuiltins ++ mathBuiltins ++ dataBuiltins

/-- All built-in functions. Their places follow from the order. -/
def builtins : Array Builtin := (methods ++ parentAccess).toArray

/-- The objects before the built-in functions, in the order of their places. -/
def firstObjects : Array Object :=
  let plain : Object := { parent := some Place.objectParent }
  let error : Object := { parent := some Place.errorParent }
  #[plain, {}, plain, { plain with kind := .array #[] 0 }, { plain with kind := .boxed (.text #[]) },
    { plain with kind := .boxed (.number (.int 0)) }, { plain with kind := .boxed (.bool false) }, plain,
    error, error, error, error, error, error, error, plain, plain]

def hide (heap : Heap) (holder : Nat) (name : String) (value : Value) : Heap :=
  heap.changeObject holder fun object => object.put (Units.ofAscii name) (.hidden value)

/-- A function object, and its place in the heap. -/
def addFunction (heap : Heap) (kind : Kind) (name : Units) (length : Nat) : Nat × Heap :=
  heap.add { kind, parent := some Place.functionParent,
             properties := #[(lengthKey, .fixed (.int length)), (nameKey, .fixed (.text name))] }

/-- A built-in function as a member of its holder; a constructor also knows what it constructs. -/
def addBuiltin (heap : Heap) (place : Nat) (builtin : Builtin) : Heap :=
  let (id, heap) := addFunction heap (.builtin place) (Units.ofAscii builtin.name) builtin.length
  let heap := hide heap builtin.holder builtin.name (.object id)
  match builtin.constructs with
  | none => heap
  | some parent =>
    let link : Property := { content := .data (.object parent) false, enumerable := false, configurable := false }
    hide (heap.changeObject id fun object => object.put prototypeKey link) parent "constructor" (.object id)

def addMethods (heap : Heap) : Heap :=
  (methods.zipIdx).foldl (fun heap entry => addBuiltin heap entry.2 entry.1) heap

/-- The property of all objects that shows their parent. -/
def addParentAccess (heap : Heap) : Heap :=
  let key := Units.ofAscii "__proto__"
  let (getter, heap) := addFunction heap (.builtin methods.length) key 0
  let (setter, heap) := addFunction heap (.builtin (methods.length + 1)) key 1
  heap.changeObject Place.objectParent fun object =>
    object.put key { content := .accessor (some getter) (some setter), enumerable := false }

/-- A global that can be neither changed nor removed. -/
def constant (value : Value) : Property :=
  { content := .data value false, enumerable := false, configurable := false }

def addNumbers (heap : Heap) : Heap :=
  namedNumbers.foldl (fun heap (holder, name, number) =>
    heap.changeObject holder fun object => object.put (Units.ofAscii name) (constant (.number number))) heap

def addErrors (heap : Heap) : Heap :=
  errorKinds.foldl (fun heap (name, parent) =>
    hide (hide heap parent "name" (.ascii name)) parent "message" (.text #[])) heap

/-- The heap before anything of the surroundings is in it. -/
def base : Heap :=
  let heap : Heap := { objects := firstObjects, scopes := #[{}] }
  let heap := addErrors (addNumbers (addParentAccess (addMethods heap)))
  let heap := heap.changeObject Place.globals fun object =>
    object.put (Units.ofAscii "undefined") (constant .undefined)
  let heap := hide heap Place.globals "globalThis" (.object Place.globals)
  hide (hide heap Place.globals "Math" (.object Place.math)) Place.globals "JSON" (.object Place.json)

/-! Globals of the surroundings -/

def addMethod (target : String) (holder : Nat) (heap : Heap) (method : String) : Heap :=
  let name := Units.ofString method
  let (id, heap) := addFunction heap (.host target method) name 0
  heap.changeObject holder fun object => object.put name (.plain (.object id))

def addGlobal (heap : Heap) (entry : Session.Global) : Heap :=
  let (id, heap) := heap.add { parent := some Place.objectParent }
  let heap := entry.methods.foldl (addMethod entry.target id) heap
  heap.changeObject Place.globals fun object => object.put (Units.ofString entry.target) (.plain (.object id))

/-- Globals that cannot be taken by anything else. -/
def isTaken (target : String) : Bool := ["undefined", "NaN", "Infinity"].contains target

def withGlobals (globals : List Session.Global) : Heap := globals.foldl addGlobal base

end Realm
end ScriptedTask.Script
