import ScriptedTask.Script.Interchange
import ScriptedTask.Script.Loop
import ScriptedTask.Script.Realm

/-! Calls: of functions that a script defines, of built-in functions, and of those that the
script's surroundings answer. -/

namespace ScriptedTask.Script

open Text (Units)

namespace Eval

/-- Calls that may be under way at once. -/
def deepestCall : Nat := 2000

/-- Runs a call at one level more. The scopes made in it are given up if no function keeps them. -/
def nested {α : Type} (body : Eval α) : Eval α := do
  let (depth, scopes, closures) ← look fun heap => (heap.depth, heap.scopes.size, heap.closures)
  if deepestCall ≤ depth then raiseRange "Maximum call stack size exceeded"
  change fun heap => { heap with depth := depth + 1 }
  let result ← attempt body
  change fun heap =>
    let heap := { heap with depth := depth }
    if heap.closures = closures then { heap with scopes := heap.scopes.shrink scopes } else heap
  settle result

/-! Functions of the script -/

/-- The parameters with the arguments given for them. -/
def parameterBindings : List Parameter → List Value → List Binding
  | [], _ => []
  | .mk name _ :: rest, values => ⟨name, some (values.headD .undefined), false⟩ :: parameterBindings rest values.tail

/-- Gives parameters that are undefined the values of their defaults, in order. -/
def fillDefaults (e : Evaluator) (frame : Frame) : List Parameter → Eval Unit
  | [] => return
  | .mk _ none :: rest => fillDefaults e frame rest
  | .mk name (some default) :: rest => do
    match ← readName frame.scope name with
    | .undefined => bindFirst frame.scope name (← e.expression frame default)
    | _ => pure ()
    fillDefaults e frame rest

/-- The object that lists all arguments of a call. -/
def argumentsObject (values : List Value) : Eval Value := do
  let items := values.zipIdx.map fun (value, index) => (indexKey index, Property.plain value)
  let properties := (items ++ [(lengthKey, Property.hidden (.int values.length))]).toArray
  return .object (← newObject { kind := .arguments, parent := some Place.objectParent, properties })

/-- The scope of a function that knows itself by its name. -/
def selfScope (bindsItself : Bool) (name : Name) (callee scope : Nat) : Eval Nat :=
  if bindsItself then newScope [⟨name, some (.object callee), true⟩] scope else return scope

def runFunction (e : Evaluator) (callee : Nat) (scope : Nat) (this : Value) (values : List Value) :
    FunctionCode → Eval Completion
  | .mk name _ parameters rest hoisted (.mk lexicals functions statements) bindsItself usesArguments _ => do
    let outer ← selfScope bindsItself name callee scope
    let undefined := fun name => (⟨name, some .undefined, false⟩ : Binding)
    let bindings := parameterBindings parameters values ++ rest.toList.map undefined ++
      hoisted.map undefined ++ (functions.map fun code => undefined code.name) ++ lexicals.map uninitialized
    let bindings := if usesArguments then bindings ++ [undefined (Units.ofAscii "arguments")] else bindings
    let frame : Frame := ⟨← newScope bindings outer, this⟩
    if usesArguments then bindFirst frame.scope (Units.ofAscii "arguments") (← argumentsObject values)
    match rest with
    | some name => bindFirst frame.scope name (← newArray (values.drop parameters.length))
    | none => pure ()
    fillDefaults e frame parameters
    hoist frame functions
    return .returned (returnedValue (← runStatements e frame statements))

/-! Answers from outside -/

def callOutside (target method : String) (values : List Value) : Eval Completion := do
  match ← outside ⟨target, method, ← toJsonAll values⟩ with
  | some value => return .returned (← ofJson value)
  | none => return .returned .undefined

/-! Jobs -/

def runBuiltin (place : Nat) (invocation : Invocation) : Eval Completion := do
  match Realm.builtins[place]? with
  | some builtin => return .returned (← builtin.run invocation)
  | none => return .normal

def runCall (e : Evaluator) (callee : Nat) (this : Value) (values : List Value) : Eval Turn := do
  match (← look fun heap => heap.object callee).kind with
  | .closure code scope captured =>
    let this := if code.kind = .arrow then captured else this
    return .ends (← nested (runFunction e callee scope this values code))
  | .builtin place => return .ends (← nested (runBuiltin place ⟨this, values, false⟩))
  | .bound target this first => return .again (.call target this (first ++ values))
  | .host target method => return .ends (← callOutside target method values)
  | _ => raiseType "not a function"

/-- The parent of what a function constructs. -/
def parentFor (callee : Nat) : Eval Nat := do
  match ← get (.object callee) prototypeKey with
  | .object parent => return parent
  | _ => return Place.objectParent

def runConstruct (e : Evaluator) (callee : Nat) (values : List Value) : Eval Turn := do
  match (← look fun heap => heap.object callee).kind with
  | .closure code scope _ =>
    if code.kind ≠ .ordinary then raiseType "not a constructor"
    let this := Value.object (← newObject { parent := some (← parentFor callee) })
    match ← nested (runFunction e callee scope this values code) with
    | .returned (.object id) => return .ends (.returned (.object id))
    | _ => return .ends (.returned this)
  | .builtin place =>
    match Realm.builtins[place]? with
    | some ⟨_, _, _, _, some _⟩ => return .ends (← nested (runBuiltin place ⟨.undefined, values, true⟩))
    | _ => raiseType "not a constructor"
  | .bound target _ first => return .again (.construct target (first ++ values))
  | _ => raiseType "not a constructor"

def runJob (e : Evaluator) : Job → Eval Turn
  | .call callee this values => runCall e callee this values
  | .construct callee values => runConstruct e callee values
  | .loop frame labels round => runRound e frame labels round

/-! Nesting -/

/-- Runs what is nested in a program, down to a depth. -/
def evaluator : Nat → Evaluator
  | 0 =>
    { expression := fun _ _ => raiseRange "Maximum call stack size exceeded"
      link := fun _ _ => raiseRange "Maximum call stack size exceeded"
      statement := fun _ _ => raiseRange "Maximum call stack size exceeded" }
  | depth + 1 =>
    let inner := evaluator depth
    { expression := evaluate inner, link := evaluateLink inner, statement := run inner }

/-! Programs -/

/-- Variables and functions of a program are properties of the globals. -/
def declareGlobal (name : Name) (value : Value) : Eval Unit :=
  change fun heap => heap.changeObject Place.globals fun object =>
    object.put name { content := .data value true, configurable := false }

def declareGlobals (frame : Frame) (hoisted : List Name) (functions : List FunctionCode) : Eval Unit := do
  for name in hoisted do
    if (← look fun heap => ((heap.object Place.globals).find? name).isNone) then declareGlobal name .undefined
  for code in functions do declareGlobal code.name (← makeFunction frame code)

/-- The scope around a program, and the object that `this` is in it. -/
def programFrame : Frame := ⟨0, .object Place.globals⟩

def runProgram (e : Evaluator) (program : Program) : Eval Unit := do
  let .mk lexicals functions statements := program.body
  change fun heap => heap.changeScope 0 fun _ => ⟨(lexicals.map uninitialized).toArray, none⟩
  declareGlobals programFrame program.hoisted functions
  let _ ← runStatements e programFrame statements

end Eval
end ScriptedTask.Script
