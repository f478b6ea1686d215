import ScriptedTask.Script.Conversion

/-! What operators compute. Operands are converted from left to right. -/

namespace ScriptedTask.Script

open Text (Units)

namespace Eval

/-- The longest text that a script can build. -/
def longestText : Nat := 0x1000000

/-- Makes sure that there is room for a text, and accounts for the work of building it. -/
def checkText (length : Nat) : Eval Unit := do
  if longestText < length then raiseRange "invalid string length"
  spend (length / 256)
  charge (32 + length)
  release (32 + length)

def concat (left right : Units) : Eval Units := do
  checkText (left.size + right.size)
  return left ++ right

def add (left right : Value) : Eval Value := do
  match left, right with
  | .number left, .number right => return .number (left.add right)
  | .text left, .text right => return .text (← concat left right)
  | _, _ =>
    let left ← toPrimitive .number left
    let right ← toPrimitive .number right
    match left, right with
    | .text one, other => return .text (← concat one (textOf other))
    | one, .text other => return .text (← concat (textOf one) other)
    | _, _ => return .number ((numberOf left).add (numberOf right))

def arithmetic (op : Num → Num → Num) (left right : Value) : Eval Value := do
  let left ← toNumber left
  return .number (op left (← toNumber right))

def onWords (op : UInt32 → UInt32 → UInt32) (left right : Num) : Num :=
  Num.ofSigned (op left.toUInt32 right.toUInt32)

/-- The shift keeps the sign of the word. -/
def shiftRight (left right : Num) : Num :=
  let word := (Num.ofSigned left.toUInt32).truncate
  .int (word >>> (right.toUInt32.toNat % 32))

def shiftRightZero (left right : Num) : Num := Num.ofUInt32 (left.toUInt32 >>> right.toUInt32)

/-- Compares with `test` on the order of the operands, or of the operands swapped. -/
def compare (swapped : Bool) (test : Option Bool → Bool) (left right : Value) : Eval Value := do
  let left ← toPrimitive .number left
  let right ← toPrimitive .number right
  return .bool (test (if swapped then before right left else before left right))

/-- The object is among the parents of another one. `fuel` bounds their number. -/
def isParent (heap : Heap) (parent : Nat) : Nat → Nat → Bool
  | 0, _ => false
  | fuel + 1, id =>
    match (heap.object id).parent with
    | some found => found == parent || isParent heap parent fuel found
    | none => false

/-- The function that a bound function stands for. -/
def unbound (heap : Heap) (id : Nat) : Nat :=
  match (heap.object id).kind with
  | .bound target .. => target
  | _ => id

def instanceOf (left right : Value) : Eval Value := do
  match right with
  | .object id =>
    let heap ← heap
    if !(heap.object id).isFunction then raiseType "invalid 'instanceof' right operand"
    match left, ← get (.object (unbound heap id)) (Units.ofAscii "prototype") with
    | .object child, .object parent => return .bool (isParent heap parent heap.objects.size child)
    | .object _, _ => raiseType "operand 'prototype' property is not an object"
    | _, _ => return .bool false
  | _ => raiseType "invalid 'instanceof' right operand"

def inside (left right : Value) : Eval Value := do
  match right with
  | .object id => return .bool (← hasProperty id (← toKey left))
  | _ => raiseType "invalid 'in' operand"

def applyBinary (op : BinaryOp) (left right : Value) : Eval Value := do
  match op with
  | .add => add left right
  | .sub => arithmetic Num.sub left right
  | .mul => arithmetic Num.mul left right
  | .div => arithmetic Num.div left right
  | .mod => arithmetic Num.mod left right
  | .pow => arithmetic Num.pow left right
  | .shiftLeft => arithmetic (onWords (· <<< ·)) left right
  | .shiftRight => arithmetic shiftRight left right
  | .shiftRightZero => arithmetic shiftRightZero left right
  | .bitAnd => arithmetic (onWords (· &&& ·)) left right
  | .bitOr => arithmetic (onWords (· ||| ·)) left right
  | .bitXor => arithmetic (onWords (· ^^^ ·)) left right
  | .less => compare false (· == some true) left right
  | .greater => compare true (· == some true) left right
  | .atMost => compare true (· == some false) left right
  | .atLeast => compare false (· == some false) left right
  | .looseEqual => return .bool (← looseEqual left right)
  | .looseUnequal => return .bool !(← looseEqual left right)
  | .equal => return .bool (left.same right)
  | .unequal => return .bool !(left.same right)
  | .inside => inside left right
  | .instanceOf => instanceOf left right

def applyUnary (op : UnaryOp) (operand : Value) : Eval Value := do
  match op with
  | .minus => return .number (← toNumber operand).neg
  | .plus => return .number (← toNumber operand)
  | .not => return .bool !operand.truthy
  | .complement => return .number (Num.ofSigned (~~~ (← toNumber operand).toUInt32))
  | .typeOf => return .ascii (← look fun heap => typeOf heap operand)
  | .void => return .undefined

/-- The left operand decides; none if the right one is needed. -/
def decided (op : LogicalOp) (left : Value) : Bool :=
  match op with
  | .and => !left.truthy
  | .or => left.truthy
  | .coalesce => !left.isNothing

/-! Items of what can be listed -/

/-- The characters of a text; a surrogate that stands alone counts like a character. -/
def characters (units : Units) : List Value :=
  (Units.spell units.toList).map fun
    | .inl c => .text (Units.ofChar c).toArray
    | .inr unit => .text #[unit]

/-- The items of an array or the characters of a text. -/
def listed (value : Value) : Eval (List Value) := do
  match value with
  | .text units => return characters units
  | .object id =>
    let object ← look fun heap => heap.object id
    match object.kind with
    | .array _ length =>
      spend length
      (List.range length).mapM (getItem value)
    | .arguments => (List.range (← lengthOf value)).mapM (getItem value)
    | .boxed (.text units) => return characters units
    | _ => raiseType "value is not iterable"
  | _ => raiseType "value is not iterable"

end Eval
end ScriptedTask.Script
