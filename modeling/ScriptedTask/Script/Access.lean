import ScriptedTask.Script.Evaluation

/-! Access to properties. Reading asks an object and then its parents; writing changes the
object itself, unless a parent forbids it or answers it with a function. -/

namespace ScriptedTask.Script

open Text (Units)

def showKey (key : Units) : String :=
  String.ofList ((Units.spell key.toList).map fun
    | .inl c => c
    | .inr _ => '\ufffd')

namespace Eval

def lengthKey : Units := Units.ofAscii "length"

def nameKey : Units := Units.ofAscii "name"

def prototypeKey : Units := Units.ofAscii "prototype"

/-! Reading -/

def readContent (content : Content) (receiver : Value) : Eval Value :=
  match content with
  | .data value _ => return value
  | .accessor (some getter) _ => callObject getter receiver []
  | .accessor none _ => return .undefined

/-- Takes the work of looking through the properties of an object from the budget. -/
def search (id : Nat) : Eval Unit := do spend ((← look fun heap => (heap.object id).properties.size) / 16)

/-- Reads a property of an object on behalf of the receiver. -/
def getFrom (id : Nat) (receiver : Value) (key : Units) : Eval Value := do
  search id
  match ← look fun heap => heap.property? id key with
  | some property => readContent property.content receiver
  | none => return .undefined

/-- The unit or the length that a text answers itself. -/
def textProperty? (units : Units) (key : Units) : Option Value :=
  match indexOf? key with
  | some index => (units[index]?).map fun unit => .text #[unit]
  | none => if key.same lengthKey then some (.int units.size) else none

def get (value : Value) (key : Units) : Eval Value :=
  match value with
  | .object id => getFrom id value key
  | .text units =>
    match textProperty? units key with
    | some found => return found
    | none => getFrom Place.stringParent value key
  | .number _ => getFrom Place.numberParent value key
  | .bool _ => getFrom Place.booleanParent value key
  | .undefined => raiseType ("cannot read property '" ++ showKey key ++ "' of undefined")
  | .null => raiseType ("cannot read property '" ++ showKey key ++ "' of null")

/-- The item of an array or the unit of a text, if that is what is asked for. -/
def quickItem? (heap : Heap) (value : Value) (index : Nat) : Option Value :=
  match value with
  | .object id =>
    match (heap.object id).kind with
    | .array items _ => items.getD index none
    | _ => none
  | .text units => (units[index]?).map fun unit => .text #[unit]
  | _ => none

def getItem (value : Value) (index : Nat) : Eval Value := do
  match quickItem? (← heap) value index with
  | some found => return found
  | none => get value (indexKey index)

def hasProperty (id : Nat) (key : Units) : Eval Bool := look fun heap => (heap.property? id key).isSome

/-! Writing -/

def readOnly {α : Type} (key : Units) : Eval α := raiseType ("'" ++ showKey key ++ "' is read-only")

/-- Sizes at which the room for an array's items is enlarged. -/
def growthSizes : List Nat := [1, 4, 18, 81, 364, 1638, 7371, 33169, 149260, 671670, 3022515]

/-- What one more item takes, beyond the item itself. -/
def growth (size : Nat) : Nat :=
  if size = 0 then 16 else if growthSizes.contains size then 16 * (size * 9 / 2 - size) else 0

/-- Holes that an assignment past the end may fill in; further items are kept by their keys. -/
def widestGap : Nat := 65536

/-- Stores an item where the array has room, or right behind it. -/
def withItem (index : Nat) (value : Value) (object : Object) : Object :=
  match object with
  | ⟨.array items length, parent, properties, extensible, frozen⟩ =>
    if index < items.size then ⟨.array (items.set! index (some value)) length, parent, properties, extensible, frozen⟩
    else if index = items.size then
      ⟨.array (items.push (some value)) (max length (index + 1)), parent, properties, extensible, frozen⟩
    else if index < items.size + widestGap then
      ⟨.array ((items ++ Array.replicate (index - items.size) none).push (some value)) (max length (index + 1)),
        parent, properties, extensible, frozen⟩
    else Object.put ⟨.array items (max length (index + 1)), parent, properties, extensible, frozen⟩
      (indexKey index) (.plain value)
  | other => other.put (indexKey index) (.plain value)

/-- The number of leading items that an array keeps in place. -/
def itemCount (heap : Heap) (id : Nat) : Nat :=
  match (heap.object id).kind with
  | .array items _ => items.size
  | _ => 0

def storeItem (id index : Nat) (value : Value) : Eval Unit := do
  let size ← look fun heap => itemCount heap id
  charge (sizeOfValue value + if index < size then 0 else growth size)
  change fun heap => heap.changeObject id (withItem index value)

/-- An array cut or stretched to a length. -/
def withLength (length : Nat) (object : Object) : Object :=
  match object with
  | ⟨.array items old, parent, properties, extensible, frozen⟩ =>
    let properties := if length < old then
        properties.filter fun entry => match indexOf? entry.1 with
          | some index => index < length
          | none => true
      else properties
    ⟨.array (items.take length) length, parent, properties, extensible, frozen⟩
  | other => other

/-- Replaces the value of a property of the object itself, or adds it. -/
def store (id : Nat) (key : Units) (property : Property) (isNew : Bool) : Eval Unit := do
  match property.content with
  | .data value _ => charge (sizeOfValue value + if isNew then 24 else 0)
  | .accessor .. => charge 24
  change fun heap => heap.changeObject id fun object => object.put key property

/-- Adds a property to an object that has none of its name. -/
def addProperty (id : Nat) (key : Units) (value : Value) : Eval Unit := do
  let object ← look fun heap => heap.object id
  if !object.extensible then raiseType "object is not extensible"
  match object.kind, indexOf? key with
  | .array .., some index => storeItem id index value
  | _, _ => store id key (.plain value) true

/-- Writes over a property that the object itself has. -/
def overwrite (id : Nat) (key : Units) (property : Property) (value : Value) (receiver : Value) : Eval Unit := do
  match property.content with
  | .accessor _ (some setter) => let _ ← callObject setter receiver [value]
  | .accessor _ none => raiseType ("no setter for property '" ++ showKey key ++ "'")
  | .data _ false => readOnly key
  | .data old true =>
    let object ← look fun heap => heap.object id
    release (sizeOfValue old)
    match object.kind, indexOf? key with
    | .array .., some index => storeItem id index value
    | _, _ => store id key { property with content := .data value true } false

/-- Assigns to a property whose object does not have it itself. -/
def assignInherited (id : Nat) (key : Units) (inherited : Option Property) (value receiver : Value) : Eval Unit :=
  match inherited with
  | some ⟨.accessor _ (some setter), _, _⟩ => do let _ ← callObject setter receiver [value]
  | some ⟨.accessor _ none, _, _⟩ => raiseType ("no setter for property '" ++ showKey key ++ "'")
  | some ⟨.data _ false, _, _⟩ => readOnly key
  | _ => addProperty id key value

/-- The length that a number stands for, if it is one. -/
def lengthOf? (number : Num) : Option Nat :=
  match number with
  | .int value => if 0 ≤ value ∧ value < 0x100000000 then some value.toNat else none
  | .real value => if value == 0 then some 0 else none

def setLength (id : Nat) (number : Num) : Eval Unit := do
  match lengthOf? number with
  | some length => change fun heap => heap.changeObject id (withLength length)
  | none => raiseRange "invalid array length"

def isArrayLength (object : Object) (key : Units) : Bool :=
  match object.kind with
  | .array .. => key.same lengthKey
  | _ => false

/-- Assigns to a property of an object. A length has been made a number before. -/
def putObject (id : Nat) (key : Units) (value receiver : Value) : Eval Unit := do
  search id
  let object ← look fun heap => heap.object id
  match object.own? key with
  | some property =>
    match isArrayLength object key && !object.frozen, value with
    | true, .number number => setLength id number
    | _, _ => overwrite id key property value receiver
  | none => assignInherited id key (← look fun heap => heap.property? id key) value receiver

def put (target : Value) (key : Units) (value : Value) : Eval Unit :=
  match target with
  | .object id => putObject id key value target
  | .undefined => raiseType ("cannot set property '" ++ showKey key ++ "' of undefined")
  | .null => raiseType ("cannot set property '" ++ showKey key ++ "' of null")
  | .text units => if (textProperty? units key).isSome then readOnly key else raiseType "not an object"
  | _ => raiseType "not an object"

/-- Makes a property of the object itself, whatever it inherits. -/
def define (id : Nat) (key : Units) (value : Value) : Eval Unit := do
  let object ← look fun heap => heap.object id
  match object.kind, indexOf? key with
  | .array .., some index => storeItem id index value
  | _, _ => store id key (.plain value) (object.find? key).isNone

/-- Removes a property; telling whether it could be. -/
def remove (id : Nat) (key : Units) : Eval Bool := do
  let object ← look fun heap => heap.object id
  match object.own? key with
  | none => return true
  | some property =>
    if !property.configurable then return false
    change fun heap => heap.changeObject id fun object =>
      match object, indexOf? key with
      | ⟨.array items length, parent, properties, extensible, frozen⟩, some index =>
        if index < items.size then ⟨.array (items.set! index none) length, parent, properties, extensible, frozen⟩
        else Object.erase ⟨.array items length, parent, properties, extensible, frozen⟩ key
      | object, _ => object.erase key
    return true

/-! Names -/

/-- Where a name is bound: a scope and a place in it. -/
def findBinding? (heap : Heap) : Nat → Nat → Name → Option (Nat × Nat)
  | 0, _, _ => none
  | fuel + 1, scope, name =>
    let environment := heap.scopes.getD scope {}
    match environment.bindings.findIdx? fun binding => binding.name.same name with
    | some place => some (scope, place)
    | none =>
      match environment.outer with
      | some outer => findBinding? heap fuel outer name
      | none => none

def binding? (heap : Heap) (scope : Nat) (name : Name) : Option (Nat × Nat) :=
  findBinding? heap (scope + 1) scope name

def bindingAt (heap : Heap) (scope place : Nat) : Binding :=
  (heap.scopes.getD scope {}).bindings.getD place ⟨#[], none, false⟩

def notDefined {α : Type} (name : Name) : Eval α :=
  raiseError Place.referenceErrorParent (showKey name ++ " is not defined")

def notInitialized {α : Type} (name : Name) : Eval α :=
  raiseError Place.referenceErrorParent (showKey name ++ " is not initialized")

/-- The value of a name, if it is bound at all. -/
def readName? (scope : Nat) (name : Name) : Eval (Option Value) := do
  let heap ← heap
  match binding? heap scope name with
  | some (found, place) =>
    match (bindingAt heap found place).value with
    | some value => return some value
    | none => notInitialized name
  | none =>
    match heap.property? Place.globals name with
    | some property => return some (← readContent property.content (.object Place.globals))
    | none => return none

def readName (scope : Nat) (name : Name) : Eval Value := do
  match ← readName? scope name with
  | some value => return value
  | none => notDefined name

def setBinding (scope place : Nat) (value : Value) : Eval Unit := do
  charge (sizeOfValue value)
  change fun heap => heap.changeScope scope fun environment =>
    match environment with
    | ⟨bindings, outer⟩ => ⟨bindings.modify place fun binding => { binding with value := some value }, outer⟩

def assignName (scope : Nat) (name : Name) (value : Value) : Eval Unit := do
  let heap ← heap
  match binding? heap scope name with
  | some (found, place) =>
    let binding := bindingAt heap found place
    match binding.value with
    | none => notInitialized name
    | some old =>
      if binding.constant then readOnly name
      release (sizeOfValue old)
      setBinding found place value
  | none =>
    if (heap.property? Place.globals name).isSome then putObject Place.globals name value (.object Place.globals)
    else notDefined name

/-- Gives a declared name its first value, in the innermost scope that declares it. -/
def bindFirst (scope : Nat) (name : Name) (value : Value) : Eval Unit := do
  match binding? (← heap) scope name with
  | some (found, place) => setBinding found place value
  | none => putObject Place.globals name value (.object Place.globals)

def newScope (bindings : List Binding) (outer : Nat) : Eval Nat :=
  update fun heap => heap.addScope ⟨bindings.toArray, some outer⟩

end Eval
end ScriptedTask.Script
