import ScriptedTask.Script.Behaviour
import ScriptedTask.Script.Call

/-! Running computations. Jobs that a computation asks for are run on a stack of their own, one
step at a time and no longer than there is fuel. Whoever runs a script also raises the errors of the
calls that failed, and so knows at the end whether one of them is what the script ended with. -/

namespace ScriptedTask.Script

open Text (Units)

namespace Machine

abbrev Waiting (α : Type) := Heap → Except Value Completion → Comp α

/-- How a script ended by itself. A value that was thrown comes with what is told of it. -/
inductive Finish where
  | done
  | stopped
  | thrown (value : Value) (told : Uncaught)

/-- The failed call that raised a value, if the value is the error of one. The errors of failed calls
are given by their places, in order. -/
def originOf (raised : List Nat) : Value → Option Nat
  | .object id => raised.idxOf? id
  | _ => none

def Finish.ending (raised : List Nat) : Finish → Ending
  | .done => .finished
  | .stopped => .outOfTime
  | .thrown value told => .thrown { told with origin := originOf raised value }

/-- A script between two steps: its own computation, or a job with all those that wait for it. -/
inductive Running where
  | script (comp : Comp Finish)
  | job (comp : Comp Turn) (frames : List (Waiting Turn)) (script : Waiting Finish)

/-- Hands the end of a job to whatever waits for it. -/
def reply (heap : Heap) (result : Except Value Completion) (frames : List (Waiting Turn)) (script : Waiting Finish) :
    Running :=
  match frames with
  | [] => .script (script heap result)
  | frame :: frames => .job (frame heap result) frames script

inductive Step where
  | ended (finish : Finish)
  | next (running : Running)
  | outside (heap : Heap) (call : Call) (resume : Heap → Except Value (Option Json) → Running)

def step (e : Evaluator) : Running → Step
  | .script (.done _ (.ok finish)) => .ended finish
  | .script (.done _ (.error _)) => .ended .done
  | .script .stopped | .job .stopped _ _ => .ended .stopped
  | .script (.ask heap job resume) => .next (.job (Eval.runJob e job heap) [] resume)
  | .script (.outside heap call resume) => .outside heap call fun heap reply => .script (resume heap reply)
  | .job (.done heap (.ok (.again job))) frames script => .next (.job (Eval.runJob e job heap) frames script)
  | .job (.done heap (.ok (.ends completion))) frames script => .next (reply heap (.ok completion) frames script)
  | .job (.done heap (.error thrown)) frames script => .next (reply heap (.error thrown) frames script)
  | .job (.ask heap job resume) frames script => .next (.job (Eval.runJob e job heap) (resume :: frames) script)
  | .job (.outside heap call resume) frames script =>
    .outside heap call fun heap reply => .job (resume heap reply) frames script

/-- The error that a failed call raises; its message is listed. -/
def failureObject (problem : CallError) : Object := Eval.errorObject Place.errorParent problem.message true

/-- Runs a script for as many steps as there is fuel. `raised` are the places of the errors that failed
calls raised so far. -/
def drive (e : Evaluator) : Nat → List Nat → Running → Behaviour
  | 0, _, _ => .ended .outOfTime
  | fuel + 1, raised, running =>
    match step e running with
    | .ended finish => .ended (finish.ending raised)
    | .next running => drive e fuel raised running
    | .outside heap call resume => .call call fun answer =>
      match answer with
      | .ok value => drive e fuel raised (resume heap (.ok value))
      | .error problem =>
        let (id, heap) := heap.add (failureObject problem)
        drive e fuel (raised ++ [id]) (resume heap (.error (.object id)))

end Machine

namespace Eval

/-! Exceptions that nothing caught -/

/-- The text of a value, if it can be had and is no lone surrogate's. -/
def plainText? (value : Value) : Eval (Option String) := do
  match ← attempt (toText value) with
  | .ok units => return Units.toString? units
  | .error _ => return none

def stackKey : Units := Units.ofAscii "stack"

/-- A property of an error as a text, if it is there and has one. -/
def errorText? (error : Value) (key : Units) : Eval (Option String) := do
  match ← attempt (get error key) with
  | .ok .undefined | .ok .null | .error _ => return none
  | .ok value => plainText? value

/-- The name of an error, if it is a text. -/
def errorName (error : Value) : Eval (Option String) := do
  match ← attempt (get error nameKey) with
  | .ok (.text units) => return Units.toString? units
  | _ => return none

def describeError (error : Value) : Eval Uncaught := do
  let message := (← errorText? error messageKey).getD ""
  let name ← errorName error
  -- The stack is only logged, but to read it may run code of the script.
  let _ ← errorText? error stackKey
  let text := match name with
    | some name => if name = "Error" then message else name ++ ": " ++ message
    | none => message
  return { text, message := some message }

def noText : String := "uncaught non-error value"

/-- A text as it is, any other value as JSON text. -/
def describeValue (value : Value) : Eval Uncaught := do
  let own := match value with
    | .text units => Units.toString? units
    | _ => none
  match own with
  | some text => return { text }
  | none =>
    match ← attempt (stringify {} value) with
    | .ok (some units) => return { text := (Units.toString? units).getD noText }
    | _ => return { text := noText }

def describeThrown (thrown : Value) : Eval Uncaught := do
  match thrown with
  | .object id =>
    match (← look fun heap => heap.object id).kind with
    | .error => describeError thrown
    | _ => describeValue thrown
  | _ => describeValue thrown

/-- Runs a program, and tells how it ended. -/
def runToEnd (e : Evaluator) (program : Program) : Eval Machine.Finish := do
  match ← attempt (runProgram e program) with
  | .ok () => return .done
  | .error thrown => return .thrown thrown (← describeThrown thrown)

end Eval
end ScriptedTask.Script
