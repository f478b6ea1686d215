import ScriptedTask.Script.Expression

/-! Statements and blocks. Loops are left to whoever runs the computation, one round at a time. -/

namespace ScriptedTask.Script

open Text (Units)

namespace Eval

/-! Blocks -/

def uninitialized (entry : Name × Declaration) : Binding := ⟨entry.1, none, entry.2 = .constant⟩

/-- Makes the functions of a block, which are there from its start. -/
def hoist (frame : Frame) : List FunctionCode → Eval Unit
  | [] => return
  | code :: rest => do
    bindFirst frame.scope code.name (← makeFunction frame code)
    hoist frame rest

/-- The frame for the inside of a block that declares names. -/
def enter (frame : Frame) (lexicals : List (Name × Declaration)) (functions : List FunctionCode) : Eval Frame := do
  if lexicals.isEmpty && functions.isEmpty then return frame
  let bindings := lexicals.map uninitialized ++ functions.map fun code => ⟨code.name, some .undefined, false⟩
  let inner := { frame with scope := ← newScope bindings frame.scope }
  hoist inner functions
  return inner

def runStatements (e : Evaluator) (frame : Frame) : List Stmt → Eval Completion
  | [] => return .normal
  | statement :: rest => do
    match ← e.statement frame statement with
    | .normal => runStatements e frame rest
    | completion => return completion

def runBlock (e : Evaluator) (frame : Frame) : Block → Eval Completion
  | .mk lexicals functions statements => do runStatements e (← enter frame lexicals functions) statements

/-! Declarations and branches -/

/-- A variable without a value keeps the one it has; any other name becomes undefined. -/
def declareAll (e : Evaluator) (frame : Frame) (kind : Declaration) : List Declarator → Eval Completion
  | [] => return .normal
  | .mk name (some value) :: rest => do
    let value ← e.expression frame value
    if kind = .variable then assignName frame.scope name value else bindFirst frame.scope name value
    declareAll e frame kind rest
  | .mk name none :: rest => do
    if kind ≠ .variable then bindFirst frame.scope name .undefined
    declareAll e frame kind rest

/-- The clauses from the first whose test equals the subject. -/
def matching (e : Evaluator) (frame : Frame) (subject : Value) : List Clause → Eval (Option (List Clause))
  | [] => return none
  | .mk none _ :: rest => matching e frame subject rest
  | .mk (some test) statements :: rest => do
    if subject.same (← e.expression frame test) then return some (.mk (some test) statements :: rest)
    matching e frame subject rest

def fromDefault : List Clause → List Clause
  | [] => []
  | .mk none statements :: rest => .mk none statements :: rest
  | .mk (some _) _ :: rest => fromDefault rest

def clauseStatements : Clause → List Stmt
  | .mk _ statements => statements

/-- A jump out of the statement itself ends it normally. -/
def leave : Completion → Completion
  | .broke none => .normal
  | other => other

def runSwitch (e : Evaluator) (frame : Frame) (subject : Expr) (lexicals : List (Name × Declaration))
    (functions : List FunctionCode) (clauses : List Clause) : Eval Completion := do
  let subject ← e.expression frame subject
  let inner ← enter frame lexicals functions
  let chosen := (← matching e inner subject clauses).getD (fromDefault clauses)
  return leave (← runStatements e inner (chosen.flatMap clauseStatements))

/-! Exceptions -/

def runHandler (e : Evaluator) (frame : Frame) (thrown : Value) : Handler → Eval Completion
  | .mk none body => runBlock e frame body
  | .mk (some name) body => do
    let scope ← newScope [⟨name, some thrown, false⟩] frame.scope
    runBlock e { frame with scope := scope } body

/-- What a cleanup ends with goes before what was to happen after it. -/
def runCleanup (e : Evaluator) (frame : Frame) (cleanup : Option Block) (result : Except Value Completion) :
    Eval Completion := do
  match cleanup with
  | none => settle result
  | some block =>
    match ← runBlock e frame block with
    | .normal => settle result
    | completion => return completion

def runTry (e : Evaluator) (frame : Frame) (body : Block) (handler : Option Handler) (cleanup : Option Block) :
    Eval Completion := do
  let result ← attempt (runBlock e frame body)
  let result ← match result, handler with
    | .error thrown, some handler => attempt (runHandler e frame thrown handler)
    | result, _ => Eval.pure result
  runCleanup e frame cleanup result

/-! Loops -/

/-- The listed keys of an object and its parents; a key hides those of the same name above it. -/
def listedKeys (heap : Heap) : Nat → Nat → List Units → List Units
  | 0, _, _ => []
  | fuel + 1, id, seen =>
    let object := heap.object id
    let fresh := object.ownKeys.filter fun key => !seen.contains key
    fresh.filter object.isEnumerable ++
      match object.parent with
      | some parent => listedKeys heap fuel parent (fresh ++ seen)
      | none => []

/-- The loop over the keys of a value, unless it has none. -/
def keysLoop (target : LoopTarget) (subject : Value) (body : Stmt) : Eval (Option Loop) := do
  match subject with
  | .undefined | .null => return none
  | other =>
    let id ← toObject other
    let heap ← heap
    return some (.keys target id (listedKeys heap (heap.objects.size + 1) id []) body)

def itemsLoop (target : LoopTarget) (subject : Value) (body : Stmt) : Eval Loop := do
  match subject with
  | .object id =>
    match (← look fun heap => heap.object id).kind with
    | .array .. | .arguments => return .items target id 0 body
    | _ => return .values target (← listed subject) body
  | _ => return .values target (← listed subject) body

def runLoop (frame : Frame) (labels : List Name) (round : Loop) : Eval Completion := ask (.loop frame labels round)

/-- Runs a statement under its labels, which belong to a loop that follows them. -/
def runLabelled (e : Evaluator) (frame : Frame) (labels : List Name) (statement : Stmt) : Eval Completion :=
  match statement with
  | .while test body => runLoop frame labels (.while test body)
  | .doWhile body test => runLoop frame labels (.doWhile body test)
  | .for lexicals start test step body => do
    let inner ← enter frame lexicals []
    let _ ← e.statement inner start
    runLoop inner labels (.for (!lexicals.isEmpty) test step body)
  | .forKeys target subject body => do
    match ← keysLoop target (← e.expression frame subject) body with
    | some round => runLoop frame labels round
    | none => return .normal
  | .forItems target subject body => do
    runLoop frame labels (← itemsLoop target (← e.expression frame subject) body)
  | other => e.statement frame other

/-- The statement under a label, and all labels before it. -/
def underLabels (labels : List Name) : Stmt → List Name × Stmt
  | .labelled label body => underLabels (label :: labels) body
  | other => (labels, other)

def leaveLabels (labels : List Name) : Completion → Completion
  | .broke (some label) => if labels.contains label then .normal else .broke (some label)
  | other => other

def run (e : Evaluator) (frame : Frame) (statement : Stmt) : Eval Completion :=
  match statement with
  | .empty => return .normal
  | .expression value => do
    let _ ← e.expression frame value
    return .normal
  | .declare kind declarators => declareAll e frame kind declarators
  | .block body => runBlock e frame body
  | .branch test yes no => do
    if (← e.expression frame test).truthy then e.statement frame yes else e.statement frame no
  | .switch subject lexicals functions clauses => runSwitch e frame subject lexicals functions clauses
  | .break label => return .broke label
  | .continue label => return .continued label
  | .return none => return .returned .undefined
  | .return (some value) => do return .returned (← e.expression frame value)
  | .throw value => do raise (← e.expression frame value)
  | .try body handler cleanup => runTry e frame body handler cleanup
  | .labelled label body => do
    let (labels, inner) := underLabels [label] body
    return leaveLabels labels (← runLabelled e frame labels inner)
  -- Only strict programs run, and the reader has refused this statement in them.
  | .within .. => raiseError Place.syntaxErrorParent "invalid keyword: with"
  | loop => runLabelled e frame [] loop

end Eval
end ScriptedTask.Script
