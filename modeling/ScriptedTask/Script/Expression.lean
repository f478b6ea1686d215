import ScriptedTask.Script.Operator

/-! The value of an expression. -/

namespace ScriptedTask.Script

open Text (Units)

/-- How what is nested in a piece of a program is run. -/
structure Evaluator where
  expression : Frame → Expr → Eval Value
  /-- None where an optional link of a chain found nothing to go on with. -/
  link : Frame → Expr → Eval (Option Value)
  statement : Frame → Stmt → Eval Completion

namespace Eval

/-! Functions -/

/-- A function. An ordinary one comes with the parent of what it constructs. -/
def makeFunction (frame : Frame) (code : FunctionCode) : Eval Value := do
  let properties := #[(lengthKey, .fixed (.int code.length)), (nameKey, .fixed (.text code.name))]
  let function ← newObject
    { kind := .closure code frame.scope frame.this, parent := some Place.functionParent, properties }
  change fun heap => { heap with closures := heap.closures + 1 }
  if code.kind = .ordinary then
    let parent ← newObject
      { parent := some Place.objectParent, properties := #[(Units.ofAscii "constructor", .hidden (.object function))] }
    change fun heap => heap.changeObject function fun object =>
      object.put prototypeKey { content := .data (.object parent) true, enumerable := false, configurable := false }
  return .object function

/-! Literals -/

def literal : Literal → Value
  | .null => .null
  | .bool value => .bool value
  | .number value => .number value
  | .text units => .text units

/-- Values of items, those of a spread one by one. -/
def argumentValues (e : Evaluator) (frame : Frame) : List Item → Eval (List Value)
  | [] => return []
  | .value item :: rest => do
    let value ← e.expression frame item
    return value :: (← argumentValues e frame rest)
  | .spread items :: rest => do
    let values ← listed (← e.expression frame items)
    return values ++ (← argumentValues e frame rest)
  | .hole :: rest => argumentValues e frame rest

/-- Items of an array, last first, with its holes. -/
def arrayItems (e : Evaluator) (frame : Frame) (done : List (Option Value)) : List Item → Eval (List (Option Value))
  | [] => return done
  | .value item :: rest => do arrayItems e frame (some (← e.expression frame item) :: done) rest
  | .spread items :: rest => do
    let values ← listed (← e.expression frame items)
    arrayItems e frame ((values.map some).reverse ++ done) rest
  | .hole :: rest => arrayItems e frame (none :: done) rest

def makeArray (items : List (Option Value)) : Eval Value := do
  charge (72 + sizeOfItems items)
  let items := items.toArray
  return .object (← update fun heap => heap.add { kind := .array items items.size, parent := some Place.arrayParent })

def keyOf (e : Evaluator) (frame : Frame) : Key → Eval Units
  | .fixed name => return name
  | .computed name => do toKey (← e.expression frame name)

/-- Adds a getter or a setter to what is already there. -/
def defineAccessor (id : Nat) (key : Units) (getter setter : Option Nat) : Eval Unit := do
  let old ← look fun heap => (heap.object id).find? key
  let (oldGetter, oldSetter) := match old with
    | some ⟨.accessor getter setter, _, _⟩ => (getter, setter)
    | _ => (none, none)
  store id key { content := .accessor (getter.or oldGetter) (setter.or oldSetter) } old.isNone

def functionId (frame : Frame) (code : FunctionCode) : Eval (Option Nat) := do
  match ← makeFunction frame code with
  | .object id => return some id
  | _ => return none

/-- The values of an object's own listed properties, in the order of listings. -/
def copyProperties (id : Nat) (source : Value) : Eval Unit := do
  match source with
  | .object from_ =>
    let object ← look fun heap => heap.object from_
    for key in object.ownKeys.filter object.isEnumerable do
      define id key (← get source key)
  | .text units =>
    for index in List.range units.size do
      define id (indexKey index) (← get source (indexKey index))
  | _ => return

def addMember (e : Evaluator) (frame : Frame) (id : Nat) (member : Member) : Eval Unit := do
  match member with
  | .value key value =>
    let key ← keyOf e frame key
    define id key (← e.expression frame (value.named key))
  | .getter key code => defineAccessor id (← keyOf e frame key) (← functionId frame code) none
  | .setter key code => defineAccessor id (← keyOf e frame key) none (← functionId frame code)
  | .spread values => copyProperties id (← e.expression frame values)
  | .parent value =>
    match ← e.expression frame value with
    | .object parent => change fun heap => heap.changeObject id fun object => { object with parent := some parent }
    | .null => change fun heap => heap.changeObject id fun object => { object with parent := none }
    | _ => return

def makeObject (e : Evaluator) (frame : Frame) (members : List Member) : Eval Value := do
  let id ← newObject { parent := some Place.objectParent }
  for member in members do addMember e frame id member
  return .object id

def fillTemplate (e : Evaluator) (frame : Frame) (text : Units) : List TemplatePart → Eval Value
  | [] => return .text text
  | .mk value after :: rest => do
    let found ← toText (← e.expression frame value)
    fillTemplate e frame (← concat (← concat text found) after) rest

/-! Members and calls -/

def readIndex (object key : Value) : Eval Value := do
  match object, key with
  | .object _, .number (.int index) | .text _, .number (.int index) =>
    if 0 ≤ index then getItem object index.toNat else get object (textOf key)
  | _, _ => get object (← toKey key)

/-- The array already keeps an item at the index, and lets it be changed. -/
def keepsItem (heap : Heap) (id : Nat) (index : Int) : Bool :=
  let object := heap.object id
  match object.kind with
  | .array items _ => 0 ≤ index && !object.frozen && (items.getD index.toNat none).isSome
  | _ => false

def writeIndex (object key value : Value) : Eval Unit := do
  match object, key with
  | .object id, .number (.int index) =>
    if ← look fun heap => keepsItem heap id index then storeItem id index.toNat value
    else assign object (textOf key) value
  | _, _ => assign object (← toKey key) value

/-- A link of a chain. Nothing follows an optional link that finds nothing. -/
def evaluateMember (e : Evaluator) (frame : Frame) (object : Expr) (optional : Bool)
    (read : Value → Eval Value) : Eval (Option Value) := do
  match ← e.link frame object with
  | none => return none
  | some value => if optional && value.isNothing then return none else return some (← read value)

def readKey (e : Evaluator) (frame : Frame) (key : Expr) (object : Value) : Eval Value := do
  readIndex object (← e.expression frame key)

/-- What is called, and what it is called on. -/
def evaluateCallee (e : Evaluator) (frame : Frame) (callee : Expr) : Eval (Option (Value × Value)) :=
  match callee with
  | .member object key optional => do
    match ← e.link frame object with
    | none => return none
    | some value => if optional && value.isNothing then return none else return some (value, ← get value key)
  | .index object key optional => do
    match ← e.link frame object with
    | none => return none
    | some value =>
      if optional && value.isNothing then return none
      else return some (value, ← readKey e frame key value)
  | other => do return (← e.link frame other).map fun value => (.undefined, value)

def evaluateCall (e : Evaluator) (frame : Frame) (callee : Expr) (arguments : List Item) (optional : Bool) :
    Eval (Option Value) := do
  match ← evaluateCallee e frame callee with
  | none => return none
  | some (this, function) =>
    if optional && function.isNothing then return none
    let arguments ← argumentValues e frame arguments
    return some (← call function this arguments)

def evaluateLink (e : Evaluator) (frame : Frame) (expr : Expr) : Eval (Option Value) :=
  match expr with
  | .member object key optional => evaluateMember e frame object optional (get · key)
  | .index object key optional => evaluateMember e frame object optional (readKey e frame key)
  | .call callee arguments optional => evaluateCall e frame callee arguments optional
  | other => some <$> e.expression frame other

/-! Assignment -/

/-- A place that can be read and assigned, with its parts evaluated. -/
structure Target where
  read : Eval Value
  write : Value → Eval Unit

def evaluateTarget (e : Evaluator) (frame : Frame) (target : Expr) : Eval Target :=
  match target with
  | .name name => return ⟨readName frame.scope name, assignName frame.scope name⟩
  | .member object key _ => do
    let object ← e.expression frame object
    return ⟨get object key, assign object key⟩
  | .index object key _ => do
    let object ← e.expression frame object
    let key ← e.expression frame key
    return ⟨readIndex object key, writeIndex object key⟩
  | _ => return ⟨return .undefined, fun _ => return⟩

def evaluateAssign (e : Evaluator) (frame : Frame) (op : AssignOp) (target value : Expr) : Eval Value := do
  let place ← evaluateTarget e frame target
  match op with
  | .replace =>
    let value ← e.expression frame value
    place.write value
    return value
  | .combine op =>
    let old ← place.read
    let value ← applyBinary op old (← e.expression frame value)
    place.write value
    return value
  | .guarded op =>
    let old ← place.read
    if decided op old then return old
    let value ← e.expression frame value
    place.write value
    return value

def evaluateUpdate (e : Evaluator) (frame : Frame) (first : Bool) (step : Int) (target : Expr) : Eval Value := do
  let place ← evaluateTarget e frame target
  let old ← toNumber (← place.read)
  let new := old.add (.int step)
  place.write (.number new)
  return .number (if first then new else old)

def deleteFrom (object : Value) (key : Units) : Eval Value := do
  if ← remove (← toObject object) key then return .bool true
  raiseType "could not delete property"

def evaluateDelete (e : Evaluator) (frame : Frame) (operand : Expr) : Eval Value :=
  match operand with
  | .member object key _ => do deleteFrom (← e.expression frame object) key
  | .index object key _ => do
    let object ← e.expression frame object
    deleteFrom object (← toKey (← e.expression frame key))
  | other => do
    let _ ← e.expression frame other
    return .bool true

def evaluateUnary (e : Evaluator) (frame : Frame) (op : UnaryOp) (operand : Expr) : Eval Value :=
  match op, operand with
  | .typeOf, .name name => do applyUnary .typeOf ((← readName? frame.scope name).getD .undefined)
  | _, _ => do applyUnary op (← e.expression frame operand)

def evaluate (e : Evaluator) (frame : Frame) (expr : Expr) : Eval Value :=
  match expr with
  | .literal found => return literal found
  | .name name => readName frame.scope name
  | .this => return frame.this
  | .array items => do makeArray (← arrayItems e frame [] items).reverse
  | .object members => makeObject e frame members
  | .function code => makeFunction frame code
  | .template first parts => fillTemplate e frame first parts
  | .unary op operand => evaluateUnary e frame op operand
  | .delete operand => evaluateDelete e frame operand
  | .update first step target => evaluateUpdate e frame first step target
  | .binary op left right => do
    let left ← e.expression frame left
    applyBinary op left (← e.expression frame right)
  | .logical op left right => do
    let left ← e.expression frame left
    if decided op left then return left else e.expression frame right
  | .conditional test yes no => do
    if (← e.expression frame test).truthy then e.expression frame yes else e.expression frame no
  | .assign op target value => evaluateAssign e frame op target value
  | .sequence first second => do
    let _ ← e.expression frame first
    e.expression frame second
  | .construct callee arguments => do
    let callee ← e.expression frame callee
    construct callee (← argumentValues e frame arguments)
  | .chain inner => return (← e.link frame inner).getD .undefined
  | other => return (← evaluateLink e frame other).getD .undefined

end Eval
end ScriptedTask.Script
