import ScriptedTask.Script.Builtin.Basic

/-! Functions on objects of every kind, and on functions. -/

namespace ScriptedTask.Script

open Text (Units)

namespace Eval

def setParent (id : Nat) (parent : Option Nat) : Eval Unit :=
  change fun heap => heap.changeObject id fun object => { object with parent := parent }

def parentValue (heap : Heap) (id : Nat) : Value :=
  match (heap.object id).parent with
  | some parent => .object parent
  | none => .null

/-- The listed keys of an object itself. -/
def listedKeysOf (value : Value) : Eval (Nat × List Units) := do
  let id ← toObject value
  let object ← look fun heap => heap.object id
  return (id, object.ownKeys.filter object.isEnumerable)

def objectKeys (invocation : Invocation) : Eval Value := do
  let (_, keys) ← listedKeysOf (invocation.argument 0)
  newArray (keys.map .text)

def objectValues (invocation : Invocation) : Eval Value := do
  let (id, keys) ← listedKeysOf (invocation.argument 0)
  newArray (← keys.mapM fun key => get (.object id) key)

def objectEntries (invocation : Invocation) : Eval Value := do
  let (id, keys) ← listedKeysOf (invocation.argument 0)
  newArray (← keys.mapM fun key => do newArray [.text key, ← get (.object id) key])

def objectNames (invocation : Invocation) : Eval Value := do
  let id ← toObject (invocation.argument 0)
  newArray ((← look fun heap => (heap.object id).ownKeys).map .text)

def assignFrom (target : Nat) (source : Value) : Eval Unit := do
  if source.isNothing then return
  let (id, keys) ← listedKeysOf source
  for key in keys do assign (.object target) key (← get (.object id) key)

def objectAssign (invocation : Invocation) : Eval Value := do
  let target ← toObject (invocation.argument 0)
  for source in invocation.arguments.drop 1 do assignFrom target source
  return .object target

def objectFromEntries (invocation : Invocation) : Eval Value := do
  let id ← newObject { parent := some Place.objectParent }
  for entry in ← listed (invocation.argument 0) do
    define id (← toKey (← getItem entry 0)) (← getItem entry 1)
  return .object id

def freezeProperty (property : Property) : Property :=
  match property.content with
  | .data value _ => { property with content := .data value false, configurable := false }
  | .accessor .. => { property with configurable := false }

def sealProperty (property : Property) : Property := { property with configurable := false }

/-- An object to which nothing can be added, and whose properties are changed by `close`. -/
def closed (close : Property → Property) (frozen : Bool) (object : Object) : Object :=
  { object with
    properties := object.properties.map fun entry => (entry.1, close entry.2)
    extensible := false, frozen := frozen || object.frozen }

def closing (change : Object → Object) (invocation : Invocation) : Eval Value := do
  match invocation.argument 0 with
  | .object id => Eval.change fun heap => heap.changeObject id change
  | _ => pure ()
  return invocation.argument 0

/-- All properties of an object pass the test, and nothing can be added to it. -/
def allClosed (test : Property → Bool) (invocation : Invocation) : Eval Value := do
  match invocation.argument 0 with
  | .object id =>
    let object ← look fun heap => heap.object id
    return .bool (!object.extensible && object.ownKeys.all fun key => ((object.own? key).map test).getD true)
  | _ => return .bool true

def isFrozenProperty (property : Property) : Bool :=
  !property.configurable && match property.content with
    | .data _ writable => !writable
    | .accessor .. => true

def objectCreate (invocation : Invocation) : Eval Value := do
  match invocation.argument 0 with
  | .object parent => return .object (← newObject { parent := some parent })
  | .null => return .object (← newObject {})
  | _ => raiseType "not a prototype"

def objectParent (invocation : Invocation) : Eval Value := do
  let id ← toObject (invocation.argument 0)
  look fun heap => parentValue heap id

def objectSetParent (invocation : Invocation) : Eval Value := do
  match invocation.argument 0, invocation.argument 1 with
  | .object id, .object parent => setParent id (some parent)
  | .object id, .null => setParent id none
  | _, .object _ | _, .null => pure ()
  | _, _ => raiseType "not a prototype"
  return invocation.argument 0

def functionOf? (heap : Heap) : Value → Option Nat
  | .object id => if (heap.object id).isFunction then some id else none
  | _ => none

/-- The property that a description asks for; what it leaves out is off. -/
def describedProperty (description : Value) : Eval Property := do
  let flag := fun (name : String) => do return (← get description (property name)).truthy
  let enumerable ← flag "enumerable"
  let configurable ← flag "configurable"
  let getter ← get description (property "get")
  let setter ← get description (property "set")
  let heap ← heap
  match functionOf? heap getter, functionOf? heap setter with
  | none, none =>
    let value ← get description (property "value")
    return ⟨.data value (← flag "writable"), enumerable, configurable⟩
  | getter, setter => return ⟨.accessor getter setter, enumerable, configurable⟩

def defineDescribed (id : Nat) (key : Units) (description : Value) : Eval Unit := do
  if !description.isObject then raiseType "not an object"
  let described ← describedProperty description
  let object ← look fun heap => heap.object id
  match object.own? key with
  | some old => if !old.configurable then raiseType "property is not configurable"
  | none => if !object.extensible then raiseType "object is not extensible"
  match object.kind, indexOf? key, described.content with
  | .array .., some index, .data value _ => storeItem id index value
  | _, _, _ => store id key described (object.find? key).isNone

def objectDefine (invocation : Invocation) : Eval Value := do
  match invocation.argument 0 with
  | .object id => defineDescribed id (← toKey (invocation.argument 1)) (invocation.argument 2)
  | _ => raiseType "not an object"
  return invocation.argument 0

def optionalFunction : Option Nat → Value
  | some id => .object id
  | none => .undefined

/-- A description of a property, as an object. -/
def describeProperty (found : Property) : Eval Value := do
  let id ← newObject { parent := some Place.objectParent }
  match found.content with
  | .data value writable =>
    define id (property "value") value
    define id (property "writable") (.bool writable)
  | .accessor getter setter =>
    define id (property "get") (optionalFunction getter)
    define id (property "set") (optionalFunction setter)
  define id (property "enumerable") (.bool found.enumerable)
  define id (property "configurable") (.bool found.configurable)
  return .object id

def objectDescribe (invocation : Invocation) : Eval Value := do
  let id ← toObject (invocation.argument 0)
  let key ← toKey (invocation.argument 1)
  match ← look fun heap => (heap.object id).own? key with
  | some found => describeProperty found
  | none => return .undefined

def hasOwn (value : Value) (key : Value) : Eval Value := do
  let key ← toKey key
  let id ← toObject value
  return .bool (← look fun heap => ((heap.object id).own? key).isSome)

def isListed (invocation : Invocation) : Eval Value := do
  let key ← toKey (invocation.argument 0)
  let id ← toObject invocation.this
  return .bool (← look fun heap => (heap.object id).isEnumerable key)

def isParentOf (invocation : Invocation) : Eval Value := do
  match invocation.this, invocation.argument 0 with
  | .object parent, .object child => return .bool (← look fun heap => isParent heap parent heap.objects.size child)
  | _, _ => return .bool false

def objectTag (heap : Heap) : Value → String
  | .undefined => "Undefined"
  | .null => "Null"
  | .bool _ => "Boolean"
  | .number _ => "Number"
  | .text _ => "String"
  | .object id =>
    let object := heap.object id
    match object.kind with
    | .array .. => "Array"
    | .error => "Error"
    | .arguments => "Arguments"
    | .boxed (.bool _) => "Boolean"
    | .boxed (.number _) => "Number"
    | .boxed (.text _) => "String"
    | _ => if object.isFunction then "Function" else "Object"

def objectText (invocation : Invocation) : Eval Value := do
  let tag ← look fun heap => objectTag heap invocation.this
  return .ascii ("[object " ++ tag ++ "]")

def objectOf (invocation : Invocation) : Eval Value := do
  match invocation.argument 0 with
  | .undefined | .null => return .object (← newObject { parent := some Place.objectParent })
  | value => return .object (← toObject value)

def ownParent (invocation : Invocation) : Eval Value := do
  let id ← toObject invocation.this
  look fun heap => parentValue heap id

def setOwnParent (invocation : Invocation) : Eval Value := do
  match invocation.this, invocation.argument 0 with
  | .object id, .object parent => setParent id (some parent)
  | .object id, .null => setParent id none
  | _, _ => pure ()
  return .undefined

/-- What reads and what writes the property that shows an object's parent. -/
def parentAccess : List Builtin := [
  ⟨Place.objectParent, "__proto__", 0, ownParent, none⟩, ⟨Place.objectParent, "__proto__", 1, setOwnParent, none⟩]

def objectConstructor : Builtin := ⟨Place.globals, "Object", 1, objectOf, some Place.objectParent⟩

/-- A function that the global `Object` holds. -/
def onObject (name : String) (length : Nat) (run : Invocation → Eval Value) : Builtin :=
  ⟨Place.objectFunction, name, length, run, none⟩

def isExtensible (invocation : Invocation) : Eval Value := do
  match invocation.argument 0 with
  | .object id => return .bool (← look fun heap => (heap.object id).extensible)
  | _ => return .bool false

/-- Equality that tells the two zeros apart, and takes an undefined number for equal to itself. -/
def identical (left right : Value) : Bool :=
  match left, right with
  | .number left, .number right => left.toFloat.toBits == right.toFloat.toBits || (left.isNaN && right.isNaN)
  | left, right => left.same right

def objectBuiltins : List Builtin := [
  ⟨Place.objectParent, "hasOwnProperty", 1, fun invocation => hasOwn invocation.this (invocation.argument 0), none⟩,
  ⟨Place.objectParent, "isPrototypeOf", 1, isParentOf, none⟩,
  ⟨Place.objectParent, "propertyIsEnumerable", 1, isListed, none⟩,
  ⟨Place.objectParent, "toString", 0, objectText, none⟩,
  ⟨Place.objectParent, "toLocaleString", 0, fun invocation => do return .text (← toText invocation.this), none⟩,
  ⟨Place.objectParent, "valueOf", 0, fun invocation => do return .object (← toObject invocation.this), none⟩,
  onObject "keys" 1 objectKeys, onObject "values" 1 objectValues, onObject "entries" 1 objectEntries,
  onObject "getOwnPropertyNames" 1 objectNames, onObject "assign" 2 objectAssign,
  onObject "fromEntries" 1 objectFromEntries, onObject "freeze" 1 (closing (closed freezeProperty true)),
  onObject "seal" 1 (closing (closed sealProperty false)), onObject "preventExtensions" 1 (closing (closed id false)),
  onObject "isFrozen" 1 (allClosed isFrozenProperty),
  onObject "isSealed" 1 (allClosed fun property => !property.configurable), onObject "isExtensible" 1 isExtensible,
  onObject "create" 2 objectCreate, onObject "getPrototypeOf" 1 objectParent,
  onObject "setPrototypeOf" 2 objectSetParent, onObject "defineProperty" 3 objectDefine,
  onObject "getOwnPropertyDescriptor" 2 objectDescribe,
  onObject "hasOwn" 2 fun invocation => hasOwn (invocation.argument 0) (invocation.argument 1),
  onObject "is" 2 fun invocation => return .bool (identical (invocation.argument 0) (invocation.argument 1))]

/-! Functions -/

def functionApply (invocation : Invocation) : Eval Value := do
  let arguments ← match invocation.argument 1 with
    | .undefined | .null => pure []
    | list => do
      let length ← lengthOf list
      spend length
      (List.range length).mapM (getItem list)
  call invocation.this (invocation.argument 0) arguments

def functionBind (invocation : Invocation) : Eval Value := do
  match invocation.this with
  | .object id =>
    let kind := Kind.bound id (invocation.argument 0) (invocation.arguments.drop 1)
    return .object (← newObject { kind, parent := some Place.functionParent })
  | _ => raiseType "not a function"

def functionText (invocation : Invocation) : Eval Value := do
  let name ← toText (← get invocation.this (property "name"))
  return .text (Units.ofAscii "function " ++ name ++ Units.ofAscii "() \x7b\n    [native code]\n\x7d")

def functionConstructor : Builtin :=
  ⟨Place.globals, "Function", 1, fun _ => raiseError Place.evalErrorParent "programs from text are not supported",
    some Place.functionParent⟩

def functionBuiltins : List Builtin := [
  ⟨Place.functionParent, "call", 1, fun invocation =>
    call invocation.this (invocation.argument 0) (invocation.arguments.drop 1), none⟩,
  ⟨Place.functionParent, "apply", 2, functionApply, none⟩,
  ⟨Place.functionParent, "bind", 1, functionBind, none⟩,
  ⟨Place.functionParent, "toString", 0, functionText, none⟩]

end Eval
end ScriptedTask.Script
