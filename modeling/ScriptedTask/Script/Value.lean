import ScriptedTask.Script.Program

/-! Values of running scripts and the heap that objects and scopes live in. An object is named
by its place in the heap. A property key is a text; keys that spell an array index are listed
before all others. -/

namespace ScriptedTask.Script

open Text (Units)

inductive Value where
  | undefined
  | null
  | bool (value : Bool)
  | number (value : Num)
  | text (units : Units)
  | object (id : Nat)

instance : Inhabited Value := ⟨.undefined⟩

def Value.int (value : Int) : Value := .number (Num.ofInt value)

def Value.ascii (text : String) : Value := .text (Units.ofAscii text)

/-- A property holds a value, or answers through functions. -/
inductive Content where
  | data (value : Value) (writable : Bool)
  | accessor (getter setter : Option Nat)

structure Property where
  content : Content
  enumerable : Bool := true
  configurable : Bool := true

/-- A property as plain assignment makes it. -/
def Property.plain (value : Value) : Property := { content := .data value true }

/-- A property that listings leave out. -/
def Property.hidden (value : Value) : Property := { content := .data value true, enumerable := false }

/-- A hidden property that stays as it is unless it is made anew. -/
def Property.fixed (value : Value) : Property := { content := .data value false, enumerable := false }

/-- What an object is besides its properties. -/
inductive Kind where
  | plain
  /-- The leading items, with holes, and the length, which may be larger. -/
  | array (items : Array (Option Value)) (length : Nat)
  | closure (code : FunctionCode) (scope : Nat) (this : Value)
  /-- A built-in function by its place in the table. -/
  | builtin (place : Nat)
  | bound (target : Nat) (this : Value) (arguments : List Value)
  /-- A method of a global that the script's surroundings answer. -/
  | host (target method : String)
  | error
  | boxed (value : Value)
  | arguments

structure Object where
  kind : Kind := .plain
  parent : Option Nat := none
  properties : Array (Units × Property) := #[]
  extensible : Bool := true
  /-- The items of an array cannot be changed. -/
  frozen : Bool := false

instance : Inhabited Object := ⟨{}⟩

/-- A name in a scope. It has no value before its declaration is reached. -/
structure Binding where
  name : Name
  value : Option Value
  constant : Bool := false

structure Environment where
  bindings : Array Binding := #[]
  outer : Option Nat := none

instance : Inhabited Environment := ⟨{}⟩

structure Heap where
  objects : Array Object := #[]
  scopes : Array Environment := #[]
  /-- Bytes taken, and the most that may be. -/
  used : Nat := 0
  limit : Option Nat := none
  /-- Calls that are under way. -/
  depth : Nat := 0
  /-- Work that may still be done. -/
  budget : Nat := 0
  /-- Functions that the script made so far. -/
  closures : Nat := 0

/-! The objects that every heap starts with -/

namespace Place

def globals : Nat := 0
def objectParent : Nat := 1
def functionParent : Nat := 2
def arrayParent : Nat := 3
def stringParent : Nat := 4
def numberParent : Nat := 5
def booleanParent : Nat := 6
def errorParent : Nat := 7
def typeErrorParent : Nat := 8
def rangeErrorParent : Nat := 9
def referenceErrorParent : Nat := 10
def syntaxErrorParent : Nat := 11
def evalErrorParent : Nat := 12
def uriErrorParent : Nat := 13
def internalErrorParent : Nat := 14
def math : Nat := 15
def json : Nat := 16
/-- The first built-in function. Those that construct come first, in this order. -/
def builtins : Nat := 17
def objectFunction : Nat := 17
def arrayFunction : Nat := 19
def stringFunction : Nat := 20
def numberFunction : Nat := 21

end Place

/-! Keys -/

/-- The array index that a key spells: digits without a leading zero, below 2^32 - 1. -/
def indexOf? (key : Units) : Option Nat :=
  if key.isEmpty ∨ 10 < key.size then none
  else if key.getD 0 0 = 48 ∧ 1 < key.size then none
  else if key.all fun unit => 48 ≤ unit ∧ unit ≤ 57 then
    let value := key.foldl (fun value unit => 10 * value + (unit.toNat - 48)) 0
    if value < 0x100000000 - 1 then some value else none
  else none

def indexKey (index : Nat) : Units := Units.ofAscii (toString index)

/-- Keys in the order of listings: indices in ascending order, then all others as they came. -/
def orderKeys (keys : List Units) : List Units :=
  let indices := keys.filterMap indexOf?
  (indices.mergeSort (· ≤ ·)).map indexKey ++ keys.filter fun key => (indexOf? key).isNone

/-! Objects -/

namespace Object

def find? (object : Object) (key : Units) : Option Property :=
  (object.properties.find? fun entry => entry.1.same key).map Prod.snd

/-- Replaces a property in place, or adds it at the end. -/
def put (object : Object) (key : Units) (property : Property) : Object :=
  match object with
  | ⟨kind, parent, properties, extensible, frozen⟩ =>
    match properties.findIdx? fun entry => entry.1.same key with
    | some index => ⟨kind, parent, properties.set! index (key, property), extensible, frozen⟩
    | none => ⟨kind, parent, properties.push (key, property), extensible, frozen⟩

def erase (object : Object) (key : Units) : Object :=
  { object with properties := object.properties.filter fun entry => !entry.1.same key }

/-- The property of an object itself, not of its parents. -/
def own? (object : Object) (key : Units) : Option Property :=
  match object.kind with
  | .array items length =>
    match indexOf? key with
    | some index =>
      match items.getD index none with
      | some value => some { content := .data value (!object.frozen), configurable := !object.frozen }
      | none => object.find? key
    | none =>
      if key.same (Units.ofAscii "length") then
        some { content := .data (.int length) (!object.frozen), enumerable := false, configurable := false }
      else object.find? key
  | .boxed (.text units) =>
    match indexOf? key with
    | some index =>
      match units[index]? with
      | some unit => some { content := .data (.text #[unit]) false, configurable := false }
      | none => object.find? key
    | none =>
      if key.same (Units.ofAscii "length") then
        some { content := .data (.int units.size) false, enumerable := false, configurable := false }
      else object.find? key
  | _ => object.find? key

/-- The keys of an object itself, in the order of listings. -/
def ownKeys (object : Object) : List Units :=
  let named := orderKeys (object.properties.toList.map Prod.fst)
  match object.kind with
  | .array items _ =>
    let indices := (List.range items.size).filter fun index => (items.getD index none).isSome
    indices.map indexKey ++ named.filter (fun key => (indexOf? key).isSome) ++
      Units.ofAscii "length" :: named.filter fun key => (indexOf? key).isNone
  | .boxed (.text units) => (List.range units.size).map indexKey ++ Units.ofAscii "length" :: named
  | _ => named

def isEnumerable (object : Object) (key : Units) : Bool := ((object.own? key).map Property.enumerable).getD false

def isFunction (object : Object) : Bool :=
  match object.kind with
  | .closure .. | .builtin _ | .bound .. | .host .. => true
  | _ => false

end Object

namespace Heap

def object (heap : Heap) (id : Nat) : Object := heap.objects.getD id {}

def changeObject (heap : Heap) (id : Nat) (change : Object → Object) : Heap :=
  match heap with
  | ⟨objects, scopes, used, limit, depth, budget, closures⟩ =>
    ⟨objects.modify id change, scopes, used, limit, depth, budget, closures⟩

/-- A heap with one more object, and its place. -/
def add (heap : Heap) (object : Object) : Nat × Heap :=
  match heap with
  | ⟨objects, scopes, used, limit, depth, budget, closures⟩ =>
    (objects.size, ⟨objects.push object, scopes, used, limit, depth, budget, closures⟩)

def addScope (heap : Heap) (scope : Environment) : Nat × Heap :=
  match heap with
  | ⟨objects, scopes, used, limit, depth, budget, closures⟩ =>
    (scopes.size, ⟨objects, scopes.push scope, used, limit, depth, budget, closures⟩)

def changeScope (heap : Heap) (id : Nat) (change : Environment → Environment) : Heap :=
  match heap with
  | ⟨objects, scopes, used, limit, depth, budget, closures⟩ =>
    ⟨objects, scopes.modify id change, used, limit, depth, budget, closures⟩

def isFunction (heap : Heap) : Value → Bool
  | .object id => (heap.object id).isFunction
  | _ => false

/-- The property that an object or one of its parents holds. `fuel` bounds their number. -/
def findProperty? (heap : Heap) : Nat → Nat → Units → Option Property
  | 0, _, _ => none
  | fuel + 1, id, key =>
    let object := heap.object id
    match object.own? key with
    | some property => some property
    | none =>
      match object.parent with
      | some parent => heap.findProperty? fuel parent key
      | none => none

def property? (heap : Heap) (id : Nat) (key : Units) : Option Property :=
  heap.findProperty? (heap.objects.size + 1) id key

end Heap
end ScriptedTask.Script
