import ScriptedTask.Capability.Call
import ScriptedTask.Script.Value

/-! Computations over the heap. A computation ends with a value or an exception, or it stops
because its budget is used up; it asks for calls and loop rounds instead of running them, and
for answers from outside. What is asked for is data, so whoever runs the computation decides
how deep and how long it goes. -/

namespace ScriptedTask.Script

open Text (Units)

/-- Where code runs: its innermost scope and what `this` is. -/
structure Frame where
  scope : Nat
  this : Value

/-- How a statement ended. -/
inductive Completion where
  | normal
  | broke (label : Option Name)
  | continued (label : Option Name)
  | returned (value : Value)

/-- A loop between two rounds. -/
inductive Loop where
  | while (test : Expr) (body : Stmt)
  | doWhile (body : Stmt) (test : Expr)
  | for (fresh : Bool) (test step : Option Expr) (body : Stmt)
  | keys (target : LoopTarget) (subject : Nat) (left : List Units) (body : Stmt)
  | items (target : LoopTarget) (subject : Nat) (next : Nat) (body : Stmt)
  | values (target : LoopTarget) (left : List Value) (body : Stmt)

/-- Work that a computation leaves to whoever runs it. -/
inductive Job where
  | call (callee : Nat) (this : Value) (arguments : List Value)
  | construct (callee : Nat) (arguments : List Value)
  | loop (frame : Frame) (labels : List Name) (round : Loop)

/-- What a job comes to: an end, or another job in its place. -/
inductive Turn where
  | ends (completion : Completion)
  | again (job : Job)

inductive Comp (α : Type) where
  | done (heap : Heap) (result : Except Value α)
  | stopped
  | ask (heap : Heap) (job : Job) (resume : Heap → Except Value Completion → Comp α)
  /-- An answer comes back as a value, or as the error that a failed call raised. -/
  | outside (heap : Heap) (call : Call) (resume : Heap → Except Value (Option Json) → Comp α)

def Eval (α : Type) := Heap → Comp α

namespace Comp

/-- Goes on with what a computation ends with, a value or an exception. -/
def andThen {α β : Type} (comp : Comp α) (next : Heap → Except Value α → Comp β) : Comp β :=
  match comp with
  | done heap result => next heap result
  | stopped => stopped
  | ask heap job resume => ask heap job fun heap reply => (resume heap reply).andThen next
  | outside heap call resume => outside heap call fun heap reply => (resume heap reply).andThen next

end Comp

namespace Eval

@[inline] def pure {α : Type} (value : α) : Eval α := fun heap => .done heap (.ok value)

@[inline] def bind {α β : Type} (first : Eval α) (next : α → Eval β) : Eval β := fun heap =>
  match first heap with
  | .done heap (.ok value) => next value heap
  | .done heap (.error thrown) => .done heap (.error thrown)
  | other => other.andThen fun heap result =>
    match result with
    | .ok value => next value heap
    | .error thrown => .done heap (.error thrown)

instance : Monad Eval where
  pure := Eval.pure
  bind := Eval.bind

@[inline] def raise {α : Type} (thrown : Value) : Eval α := fun heap => .done heap (.error thrown)

/-- Runs a computation and hands back its exception as a value. -/
def attempt {α : Type} (first : Eval α) : Eval (Except Value α) := fun heap =>
  (first heap).andThen fun heap result => .done heap (.ok result)

/-- Ends as a computation that was attempted did. -/
def settle {α : Type} : Except Value α → Eval α
  | .ok value => Eval.pure value
  | .error thrown => raise thrown

@[inline] def heap : Eval Heap := fun heap => .done heap (.ok heap)

@[inline] def look {α : Type} (view : Heap → α) : Eval α := fun heap => .done heap (.ok (view heap))

@[inline] def change (f : Heap → Heap) : Eval Unit := fun heap => .done (f heap) (.ok ())

@[inline] def update {α : Type} (f : Heap → α × Heap) : Eval α := fun heap =>
  let (value, heap) := f heap
  .done heap (.ok value)

/-- Takes work from the budget, and stops when it is used up. -/
def spend (work : Nat) : Eval Unit := fun heap =>
  if heap.budget < work then .stopped else .done { heap with budget := heap.budget - work } (.ok ())

def ask (job : Job) : Eval Completion := fun heap => .ask heap job fun heap reply => .done heap reply

def outside (call : Call) : Eval (Option Json) := fun heap => .outside heap call fun heap reply => .done heap reply

/-! Errors -/

/-- Room that an error needs. -/
def errorSize : Nat := 300

def messageKey : Units := Units.ofAscii "message"

/-- An error; its message may be listed. -/
def errorObject (parent : Nat) (message : String) (listed : Bool) : Object :=
  let text := Value.text (Units.ofString message)
  let property := if listed then Property.plain text else Property.hidden text
  { kind := .error, parent := some parent, properties := #[(messageKey, property)] }

def raiseError {α : Type} (parent : Nat) (message : String) : Eval α := do
  let id ← update fun heap => heap.add (errorObject parent message false)
  raise (.object id)

def raiseType {α : Type} (message : String) : Eval α := raiseError Place.typeErrorParent message

def raiseRange {α : Type} (message : String) : Eval α := raiseError Place.rangeErrorParent message

/-- Takes bytes. Without room for them there may still be room for an error that says so. -/
def charge (bytes : Nat) : Eval Unit := do
  let heap ← heap
  match heap.limit with
  | some limit =>
    if heap.used + bytes ≤ limit then change fun heap => { heap with used := heap.used + bytes }
    else if heap.used + errorSize ≤ limit then raiseError Place.internalErrorParent "out of memory"
    else raise .null
  | none => return

def release (bytes : Nat) : Eval Unit := change fun heap => { heap with used := heap.used - bytes }

/-- What a value takes where it is stored. -/
def sizeOfValue : Value → Nat
  | .text units => 32 + units.size
  | _ => 0

def newObject (object : Object) : Eval Nat := do
  charge (72 + 24 * object.properties.size)
  update fun heap => heap.add object

/-- Room that the items of an array need. -/
def sizeOfItems (items : List (Option Value)) : Nat :=
  items.foldl (fun size item => size + 16 + (item.map sizeOfValue).getD 0) 0

def newArray (items : List Value) : Eval Value := do
  let items := items.map some
  charge (72 + sizeOfItems items)
  let items := items.toArray
  let id ← update fun heap => heap.add { kind := .array items items.size, parent := some Place.arrayParent }
  return .object id

/-! Calls -/

def returnedValue : Completion → Value
  | .returned value => value
  | _ => .undefined

def callObject (callee : Nat) (this : Value) (arguments : List Value) : Eval Value := do
  return returnedValue (← ask (.call callee this arguments))

def call (callee this : Value) (arguments : List Value) : Eval Value := do
  match callee with
  | .object id => do
    if ← look fun heap => (heap.object id).isFunction then callObject id this arguments
    else raiseType "not a function"
  | _ => raiseType "not a function"

def construct (callee : Value) (arguments : List Value) : Eval Value := do
  match callee with
  | .object id =>
    if (← look fun heap => (heap.object id).isFunction) then return returnedValue (← ask (.construct id arguments))
    else raiseType "not a constructor"
  | _ => raiseType "not a constructor"

end Eval
end ScriptedTask.Script
