import ScriptedTask.Script.Builtin.Basic

/-! Functions on arrays. Those that look work on anything that has a length; those that change
the number of items work on arrays. Holes are passed over where items are visited. -/

namespace ScriptedTask.Script

open Text (Units)

namespace Eval

/-! Looking -/

/-- The item at an index, unless there is a hole. -/
def itemAt? (list : Value) (index : Nat) : Eval (Option Value) := do
  match quickItem? (← heap) list index with
  | some found => return some found
  | none =>
    match list with
    | .object id => if ← hasProperty id (indexKey index) then return some (← get list (indexKey index)) else return none
    | _ => return none

/-- What a method works on, and its length. -/
def subject (invocation : Invocation) : Eval (Value × Nat) := do
  let id ← toObject invocation.this
  let length ← lengthOf (.object id)
  spend length
  return (.object id, length)

/-- The function that is given for visiting items. -/
def visitor (invocation : Invocation) : Eval (Value → Nat → Value → Eval Value) := do
  let function := invocation.argument 0
  if !(← look fun heap => heap.isFunction function) then raiseType "not a function"
  return fun item index list => call function (invocation.argument 1) [item, .int index, list]

/-- Visits all items that are there, from the first to the last. -/
def visit (list : Value) (step : Value → Nat → Eval Unit) : List Nat → Eval Unit
  | [] => return
  | index :: rest => do
    match ← itemAt? list index with
    | some item => step item index
    | none => pure ()
    visit list step rest

def arrayForEach (invocation : Invocation) : Eval Value := do
  let (list, length) ← subject invocation
  let function ← visitor invocation
  visit list (fun item index => do let _ ← function item index list) (List.range length)
  return .undefined

/-- What a function makes of the items at the indices; `done` are those made, last first. -/
def mapItems (list : Value) (function : Value → Nat → Value → Eval Value) (done : List (Option Value)) :
    List Nat → Eval (List (Option Value))
  | [] => return done.reverse
  | index :: rest => do
    match ← itemAt? list index with
    | some item => mapItems list function (some (← function item index list) :: done) rest
    | none => mapItems list function (none :: done) rest

def newItems (items : List (Option Value)) : Eval Value := do
  let array ← newArray []
  match array with
  | .object id =>
    charge (sizeOfItems items)
    let items := items.toArray
    change fun heap => heap.changeObject id fun object => { object with kind := .array items items.size }
    return array
  | other => return other

def arrayMap (invocation : Invocation) : Eval Value := do
  let (list, length) ← subject invocation
  let function ← visitor invocation
  newItems (← mapItems list function [] (List.range length))

def keepItems (list : Value) (function : Value → Nat → Value → Eval Value) (done : List Value) :
    List Nat → Eval (List Value)
  | [] => return done.reverse
  | index :: rest => do
    match ← itemAt? list index with
    | some item =>
      if (← function item index list).truthy then keepItems list function (item :: done) rest
      else keepItems list function done rest
    | none => keepItems list function done rest

def arrayFilter (invocation : Invocation) : Eval Value := do
  let (list, length) ← subject invocation
  let function ← visitor invocation
  newArray (← keepItems list function [] (List.range length))

/-- Some item, or with `found` false some item's failure, decides. -/
def arrayDecide (found : Bool) (invocation : Invocation) : Eval Value := do
  let (list, length) ← subject invocation
  let function ← visitor invocation
  let decides := fun index => do
    match ← itemAt? list index with
    | some item => return (← function item index list).truthy == found
    | none => return false
  return .bool ((← firstIndex decides (List.range length)).isSome == found)

def searchOrder (backwards : Bool) (length : Nat) : List Nat :=
  if backwards then (List.range length).reverse else List.range length

/-- The first item that passes, by itself or by its index. Holes count as undefined. -/
def arrayFind (backwards byIndex : Bool) (invocation : Invocation) : Eval Value := do
  let (list, length) ← subject invocation
  let function ← visitor invocation
  let passes := fun index => do return (← function (← getItem list index) index list).truthy
  let found ← firstIndex passes (searchOrder backwards length)
  if byIndex then return indexValue found
  match found with
  | some index => getItem list index
  | none => return .undefined

def fold (list : Value) (function : Value) (result : Value) : List Nat → Eval Value
  | [] => return result
  | index :: rest => do
    match ← itemAt? list index with
    | some item => fold list function (← call function .undefined [result, item, .int index, list]) rest
    | none => fold list function result rest

def arrayReduce (backwards : Bool) (invocation : Invocation) : Eval Value := do
  let (list, length) ← subject invocation
  let function := invocation.argument 0
  if !(← look fun heap => heap.isFunction function) then raiseType "not a function"
  let order := searchOrder backwards length
  if invocation.has 1 then fold list function (invocation.argument 1) order
  else
    match ← firstIndex (fun index => return (← itemAt? list index).isSome) order with
    | some first => fold list function (← getItem list first) (order.drop ((order.takeWhile (· ≠ first)).length + 1))
    | none => raiseType "empty array"

/-- The index of an item that equals the argument. -/
def arrayIndexOf (invocation : Invocation) : Eval Value := do
  let (list, length) ← subject invocation
  let start ← position length (invocation.argument 1) 0
  let equals := fun index => do
    return ((← itemAt? list index).map fun item => item.same (invocation.argument 0)).getD false
  return indexValue (← firstIndex equals ((List.range length).drop start))

def arrayLastIndexOf (invocation : Invocation) : Eval Value := do
  let (list, length) ← subject invocation
  let equals := fun index => do
    return ((← itemAt? list index).map fun item => item.same (invocation.argument 0)).getD false
  let stop ← if invocation.has 1 then do
      let index ← toInteger (invocation.argument 1)
      pure (if index < 0 then index + length else min index (length - 1 : Int))
    else pure (length - 1 : Int)
  return indexValue (← firstIndex equals ((List.range (stop + 1).toNat).reverse))

def arrayIncludes (invocation : Invocation) : Eval Value := do
  let (list, length) ← subject invocation
  let start ← position length (invocation.argument 1) 0
  let equals := fun index => do return (← getItem list index).alike (invocation.argument 0)
  return .bool (← firstIndex equals ((List.range length).drop start)).isSome

def joinTexts (separator : Units) : List Units → Eval Units
  | [] => return #[]
  | first :: rest => do
    checkText (rest.foldl (fun total part => total + part.size + separator.size) first.size)
    return rest.foldl (fun text part => text ++ separator ++ part) first

def itemText (value : Value) : Eval Units := if value.isNothing then return #[] else toText value

def arrayJoin (invocation : Invocation) : Eval Value := do
  let (list, length) ← subject invocation
  let separator ← match invocation.given? 0 with
    | some separator => toText separator
    | none => pure #[44]
  let texts ← (List.range length).mapM fun index => do itemText (← getItem list index)
  return .text (← joinTexts separator texts)

def arrayText (invocation : Invocation) : Eval Value := do
  let join ← get invocation.this (property "join")
  if ← look fun heap => heap.isFunction join then call join invocation.this []
  else return .ascii ("[object " ++ "Object" ++ "]")

def arraySlice (invocation : Invocation) : Eval Value := do
  let (list, length) ← subject invocation
  let start ← position length (invocation.argument 0) 0
  let stop ← position length (invocation.argument 1) length
  newItems (← ((List.range stop).drop start).mapM (itemAt? list))

def arrayAt (invocation : Invocation) : Eval Value := do
  let (list, length) ← subject invocation
  let index ← toInteger (invocation.argument 0)
  let index := if index < 0 then index + length else index
  if 0 ≤ index ∧ index < length then getItem list index.toNat else return .undefined

/-- The items that a value adds to a concatenation. -/
def spreadItems (value : Value) : Eval (List (Option Value)) := do
  match value with
  | .object id =>
    match (← look fun heap => heap.object id).kind with
    | .array _ length =>
      spend length
      (List.range length).mapM (itemAt? value)
    | _ => return [some value]
  | _ => return [some value]

def arrayConcat (invocation : Invocation) : Eval Value := do
  let id ← toObject invocation.this
  let parts ← (Value.object id :: invocation.arguments).mapM spreadItems
  newItems parts.flatten

/-- The items of nested arrays down to a depth. -/
def flatten : Nat → Value → Eval (List Value)
  | depth, value => do
    let items := (← spreadItems value).filterMap fun item => item
    match depth with
    | 0 => return items
    | inner + 1 =>
      let parts ← items.mapM fun item => do
        match item with
        | .object id =>
          match (← look fun heap => heap.object id).kind with
          | .array .. => flatten inner item
          | _ => return [item]
        | _ => return [item]
      return parts.flatten

def arrayFlat (invocation : Invocation) : Eval Value := do
  let (list, _) ← subject invocation
  let depth ← match invocation.given? 0 with
    | some depth => toInteger depth
    | none => pure 1
  newArray (← flatten (min depth 1000).toNat list)

def arrayFlatMap (invocation : Invocation) : Eval Value := do
  newArray (← flatten 1 (← arrayMap invocation))

/-! Changing -/

/-- Holes that are filled in when an array is taken apart. -/
def widestArray : Nat := 0x100000

/-- The array that a method changes, and its items. -/
def ownItems (invocation : Invocation) : Eval (Nat × List (Option Value)) := do
  match invocation.this with
  | .object id =>
    let object ← look fun heap => heap.object id
    match object.kind with
    | .array items length =>
      spend items.size
      if object.frozen || !object.extensible then raiseType "array is read-only"
      if widestArray < length - items.size then raiseRange "invalid array length"
      return (id, items.toList ++ List.replicate (length - items.size) none)
    | _ => raiseType "not an array"
  | .undefined | .null => raiseType "Cannot convert undefined or null to object"
  | _ => raiseType "not an array"

def setItems (id : Nat) (items : List (Option Value)) : Eval Unit := do
  let items := items.toArray
  change fun heap => heap.changeObject id fun object => { object with kind := .array items items.size }

def pushAll (id : Nat) : List Value → Nat → Eval Nat
  | [], length => return length
  | value :: rest, length => do
    putObject id (indexKey length) value (.object id)
    pushAll id rest (length + 1)

/-- Adds items at the end of a proper array in place. -/
def pushQuickly (id : Nat) : List Value → Eval Unit
  | [] => return
  | value :: rest => do
    storeItem id (← look fun heap => itemCount heap id) value
    pushQuickly id rest

def isCompact (object : Object) : Bool :=
  match object.kind with
  | .array items length => items.size == length && object.extensible && !object.frozen
  | _ => false

def arrayPush (invocation : Invocation) : Eval Value := do
  let id ← toObject invocation.this
  if ← look fun heap => isCompact (heap.object id) then
    pushQuickly id invocation.arguments
    return .int (← look fun heap => itemCount heap id)
  else
    let length ← pushAll id invocation.arguments (← lengthOf (.object id))
    putObject id lengthKey (.int length) (.object id)
    return .int length

def arrayPop (invocation : Invocation) : Eval Value := do
  let (id, items) ← ownItems invocation
  setItems id items.dropLast
  return (items.getLast?.join).getD .undefined

def arrayShift (invocation : Invocation) : Eval Value := do
  let (id, items) ← ownItems invocation
  setItems id items.tail
  return (items.head?.join).getD .undefined

def arrayUnshift (invocation : Invocation) : Eval Value := do
  let (id, items) ← ownItems invocation
  let added := invocation.arguments.map some
  charge (sizeOfItems added)
  let items := added ++ items
  setItems id items
  return .int items.length

def arrayReverse (invocation : Invocation) : Eval Value := do
  let (id, items) ← ownItems invocation
  setItems id items.reverse
  return invocation.this

def arraySplice (invocation : Invocation) : Eval Value := do
  let (id, items) ← ownItems invocation
  let start ← position items.length (invocation.argument 0) 0
  let left := items.length - start
  let count ← if invocation.arguments.isEmpty then pure 0
    else if invocation.has 1 then do pure (min (← toInteger (invocation.argument 1)).toNat left)
    else pure left
  let added := (invocation.arguments.drop 2).map some
  let removed ← newItems ((items.drop start).take count)
  charge (16 * added.length)
  setItems id (items.take start ++ added ++ items.drop (start + count))
  return removed

def arrayFill (invocation : Invocation) : Eval Value := do
  let (id, items) ← ownItems invocation
  let start ← position items.length (invocation.argument 1) 0
  let stop ← position items.length (invocation.argument 2) items.length
  let filled := List.replicate (stop - start) (some (invocation.argument 0))
  if start < stop then setItems id (items.take start ++ filled ++ items.drop stop)
  return invocation.this

/-! Sorting -/

/-- Merges two sorted lists; of equal items the left one comes first. `fuel` bounds their length. -/
def mergeWith {α : Type} (after : α → α → Eval Bool) : Nat → List α → List α → List α → Eval (List α)
  | 0, done, left, right => return done.reverse ++ left ++ right
  | _, done, [], right => return done.reverse ++ right
  | _, done, left, [] => return done.reverse ++ left
  | fuel + 1, done, x :: xs, y :: ys => do
    if ← after x y then mergeWith after fuel (y :: done) (x :: xs) ys
    else mergeWith after fuel (x :: done) xs (y :: ys)

/-- Puts an item behind those that are not after it. The sorted items are given in reverse. -/
def insertWith {α : Type} (after : α → α → Eval Bool) (item : α) : List α → Eval (List α)
  | [] => return [item]
  | last :: rest => do
    if ← after last item then return last :: (← insertWith after item rest)
    else return item :: last :: rest

/-- Lists of at most this many items are sorted by insertion, longer ones by halves. -/
def fewItems : Nat := 6

/-- Sorts, keeping the order of equal items. `fuel` bounds the number of halvings. -/
def sortWith {α : Type} (after : α → α → Eval Bool) : Nat → List α → Eval (List α)
  | 0, items => return items
  | fuel + 1, items => do
    if items.length ≤ fewItems then
      return (← items.foldlM (fun sorted item => insertWith after item sorted) []).reverse
    let half := items.length / 2
    let left ← sortWith after fuel (items.take half)
    let right ← sortWith after fuel (items.drop half)
    mergeWith after items.length [] left right

def isUndefined : Value → Bool
  | .undefined => true
  | _ => false

/-- Sorted by a function, which is not asked about equal values, or else by text. -/
def sortValues (compareBy : Value) (values : List Value) : Eval (List Value) := do
  match compareBy with
  | .undefined =>
    let keyed ← values.mapM fun value => do return ((← toText value).toList, value)
    let sorted ← sortWith (fun left right => return Units.lt right.1 left.1) keyed.length keyed
    return sorted.map Prod.snd
  | _ =>
    let after := fun left right => do
      if left.same right then return false
      return (Num.int 0).lt (← toNumber (← call compareBy .undefined [left, right]))
    sortWith after values.length values

/-- Undefined items come after all others, and holes last. -/
def arraySort (invocation : Invocation) : Eval Value := do
  let compareBy := invocation.argument 0
  if !isUndefined compareBy && !(← look fun heap => heap.isFunction compareBy) then raiseType "not a function"
  let (id, items) ← ownItems invocation
  let present := items.filterMap fun item => item
  let sorted ← sortValues compareBy (present.filter fun value => !isUndefined value)
  let undefined := present.filter isUndefined
  setItems id ((sorted ++ undefined).map some ++ List.replicate (items.length - present.length) none)
  return invocation.this

/-! Making -/

def arrayOf (invocation : Invocation) : Eval Value := do
  match invocation.arguments with
  | [.number number] =>
    let array ← newArray []
    match array with
    | .object id => setLength id number
    | _ => pure ()
    return array
  | items => newArray items

def arrayFrom (invocation : Invocation) : Eval Value := do
  let source := invocation.argument 0
  let items ← match source with
    | .undefined | .null => raiseType "Cannot convert undefined or null to object"
    | .text _ => listed source
    | _ => do
      let length ← lengthOf source
      spend length
      (List.range length).mapM (getItem source)
  match invocation.given? 1 with
  | none => newArray items
  | some function => newArray (← items.zipIdx.mapM fun (item, index) => call function .undefined [item, .int index])

def isArray (heap : Heap) : Value → Bool
  | .object id =>
    match (heap.object id).kind with
    | .array .. => true
    | _ => false
  | _ => false

def arrayConstructor : Builtin := ⟨Place.globals, "Array", 1, arrayOf, some Place.arrayParent⟩

def onArrays (name : String) (length : Nat) (run : Invocation → Eval Value) : Builtin :=
  ⟨Place.arrayParent, name, length, run, none⟩

def arrayBuiltins : List Builtin := [
  onArrays "forEach" 1 arrayForEach, onArrays "map" 1 arrayMap, onArrays "filter" 1 arrayFilter,
  onArrays "some" 1 (arrayDecide true), onArrays "every" 1 (arrayDecide false),
  onArrays "find" 1 (arrayFind false false), onArrays "findIndex" 1 (arrayFind false true),
  onArrays "findLast" 1 (arrayFind true false), onArrays "findLastIndex" 1 (arrayFind true true),
  onArrays "reduce" 1 (arrayReduce false), onArrays "reduceRight" 1 (arrayReduce true),
  onArrays "indexOf" 1 arrayIndexOf, onArrays "lastIndexOf" 1 arrayLastIndexOf,
  onArrays "includes" 1 arrayIncludes, onArrays "join" 1 arrayJoin, onArrays "toString" 0 arrayText,
  onArrays "slice" 2 arraySlice, onArrays "at" 1 arrayAt, onArrays "concat" 1 arrayConcat,
  onArrays "flat" 0 arrayFlat, onArrays "flatMap" 1 arrayFlatMap,
  onArrays "push" 1 arrayPush, onArrays "pop" 0 arrayPop, onArrays "shift" 0 arrayShift,
  onArrays "unshift" 1 arrayUnshift, onArrays "reverse" 0 arrayReverse, onArrays "splice" 2 arraySplice,
  onArrays "fill" 1 arrayFill, onArrays "sort" 1 arraySort,
  ⟨Place.arrayFunction, "isArray", 1,
    fun invocation => do return .bool (← look fun heap => isArray heap (invocation.argument 0)), none⟩,
  ⟨Place.arrayFunction, "of", 0, fun invocation => newArray invocation.arguments, none⟩,
  ⟨Place.arrayFunction, "from", 1, arrayFrom, none⟩]

end Eval
end ScriptedTask.Script
