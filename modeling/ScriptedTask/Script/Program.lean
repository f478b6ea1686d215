import ScriptedTask.Script.Number
import ScriptedTask.Text.Units

/-! Programs of the scripting language as trees. Blocks list the names they declare, functions
the variables that belong to them, so that running a program never looks for declarations. -/

namespace ScriptedTask.Script

abbrev Name := Text.Units

inductive UnaryOp where
  | minus
  | plus
  | not
  | complement
  | typeOf
  | void

inductive BinaryOp where
  | add
  | sub
  | mul
  | div
  | mod
  | pow
  | shiftLeft
  | shiftRight
  | shiftRightZero
  | bitAnd
  | bitOr
  | bitXor
  | less
  | greater
  | atMost
  | atLeast
  | looseEqual
  | looseUnequal
  | equal
  | unequal
  | inside
  | instanceOf

inductive LogicalOp where
  | and
  | or
  | coalesce

inductive AssignOp where
  | replace
  | combine (op : BinaryOp)
  | guarded (op : LogicalOp)

inductive Literal where
  | null
  | bool (value : Bool)
  | number (value : Num)
  | text (units : Text.Units)

/-- How a name is declared. A variable belongs to its function, the others to their block. -/
inductive Declaration where
  | variable
  | changing
  | constant
deriving DecidableEq

inductive FunctionKind where
  | ordinary
  | arrow
  | method
deriving DecidableEq

mutual
inductive Expr where
  | literal (value : Literal)
  | name (name : Name)
  | this
  | array (items : List Item)
  | object (members : List Member)
  | function (code : FunctionCode)
  /-- A text, and substitutions with the texts after them. -/
  | template (first : Text.Units) (parts : List TemplatePart)
  | unary (op : UnaryOp) (operand : Expr)
  | delete (operand : Expr)
  /-- Adds `step` to the target; the value is the new one if `first`, else the old one. -/
  | update (first : Bool) (step : Int) (target : Expr)
  | binary (op : BinaryOp) (left right : Expr)
  | logical (op : LogicalOp) (left right : Expr)
  | conditional (test yes no : Expr)
  | assign (op : AssignOp) (target value : Expr)
  | sequence (first second : Expr)
  | call (callee : Expr) (arguments : List Item) (optional : Bool)
  | construct (callee : Expr) (arguments : List Item)
  | member (object : Expr) (key : Text.Units) (optional : Bool)
  | index (object key : Expr) (optional : Bool)
  /-- Where a chain with optional links ends. -/
  | chain (inner : Expr)

/-- An item of an array or of an argument list. -/
inductive Item where
  | value (value : Expr)
  | spread (values : Expr)
  | hole

inductive Key where
  | fixed (name : Text.Units)
  | computed (name : Expr)

inductive Member where
  | value (key : Key) (value : Expr)
  | getter (key : Key) (code : FunctionCode)
  | setter (key : Key) (code : FunctionCode)
  | spread (values : Expr)
  /-- The member that sets the prototype. -/
  | parent (value : Expr)

inductive TemplatePart where
  | mk (value : Expr) (after : Text.Units)

inductive Parameter where
  | mk (name : Name) (default : Option Expr)

/-- Statements with the names that their block declares and the functions it hoists. -/
inductive Block where
  | mk (lexicals : List (Name × Declaration)) (functions : List FunctionCode) (statements : List Stmt)

inductive FunctionCode where
  | mk (name : Name) (kind : FunctionKind) (parameters : List Parameter) (rest : Option Name)
    (hoisted : List Name) (body : Block) (bindsItself usesArguments hasInner : Bool)

inductive Declarator where
  | mk (name : Name) (value : Option Expr)

/-- What a loop over keys or items binds in each round. -/
inductive LoopTarget where
  | declare (kind : Declaration) (name : Name)
  | assign (target : Expr)

inductive Clause where
  | mk (test : Option Expr) (statements : List Stmt)

inductive Stmt where
  | empty
  | expression (value : Expr)
  | declare (kind : Declaration) (declarators : List Declarator)
  | block (body : Block)
  | branch (test : Expr) (yes : Stmt) (no : Stmt)
  | while (test : Expr) (body : Stmt)
  | doWhile (body : Stmt) (test : Expr)
  | for (lexicals : List (Name × Declaration)) (start : Stmt) (test step : Option Expr) (body : Stmt)
  | forKeys (target : LoopTarget) (subject : Expr) (body : Stmt)
  | forItems (target : LoopTarget) (subject : Expr) (body : Stmt)
  | switch (subject : Expr) (lexicals : List (Name × Declaration)) (functions : List FunctionCode)
    (clauses : List Clause)
  | break (label : Option Name)
  | continue (label : Option Name)
  | return (value : Option Expr)
  | throw (value : Expr)
  | try (body : Block) (handler : Option Handler) (cleanup : Option Block)
  | labelled (label : Name) (body : Stmt)
  /-- Names in the body are looked up in an object first. No strict program has this statement. -/
  | within (subject : Expr) (body : Stmt)

inductive Handler where
  | mk (parameter : Option Name) (body : Block)
end

def FunctionCode.name : FunctionCode → Name
  | .mk name .. => name

def FunctionCode.kind : FunctionCode → FunctionKind
  | .mk _ kind .. => kind

def FunctionCode.parameters : FunctionCode → List Parameter
  | .mk _ _ parameters .. => parameters

/-- The same function under the name of what it is bound to. -/
def FunctionCode.named (name : Name) : FunctionCode → FunctionCode
  | .mk _ kind parameters rest hoisted body self arguments inner =>
    .mk name kind parameters rest hoisted body self arguments inner

/-- The number of leading parameters without default. -/
def FunctionCode.length (code : FunctionCode) : Nat :=
  (code.parameters.takeWhile fun
    | .mk _ none => true
    | .mk _ (some _) => false).length

/-- A function without a name takes the name of what it is bound to. -/
def Expr.named (name : Name) : Expr → Expr
  | .function code => if code.name.isEmpty then .function (code.named name) else .function code
  | other => other

/-- A whole program. `depth` is larger than the depth of its tree. -/
structure Program where
  hoisted : List Name
  body : Block
  depth : Nat

end ScriptedTask.Script
