import ScriptedTask.Script.Statement

/-! One round of a loop: it ends the loop, or tells how the next round starts. -/

namespace ScriptedTask.Script

open Text (Units)

namespace Eval

/-- What a loop does with the end of its body: go on, or end itself. -/
def afterBody (labels : List Name) (completion : Completion) : Option Completion :=
  match completion with
  | .normal | .continued none => none
  | .continued (some label) => if labels.contains label then none else some completion
  | .broke none => some .normal
  | other => some other

/-- Runs a body, and then either ends the loop or goes on with `next`. -/
def runBody (e : Evaluator) (frame : Frame) (labels : List Name) (body : Stmt) (next : Eval Turn) : Eval Turn := do
  match afterBody labels (← e.statement frame body) with
  | some completion => return .ends completion
  | none => next

/-- A scope with the same names and values, so that functions keep those of their round. -/
def freshScope (frame : Frame) : Eval Frame := do
  let environment ← look fun heap => heap.scopes.getD frame.scope {}
  let scope ← update fun heap => heap.addScope environment
  return { frame with scope := scope }

def runOption (e : Evaluator) (frame : Frame) : Option Expr → Eval Unit
  | some expr => do let _ ← e.expression frame expr
  | none => return

def holds (e : Evaluator) (frame : Frame) : Option Expr → Eval Bool
  | some test => return (← e.expression frame test).truthy
  | none => return true

/-- Binds what a round is about, in a scope of its own if the loop declares it. -/
def bindTarget (e : Evaluator) (frame : Frame) (target : LoopTarget) (value : Value) : Eval Frame := do
  match target with
  | .declare .variable name =>
    assignName frame.scope name value
    return frame
  | .declare kind name =>
    return { frame with scope := ← newScope [⟨name, some value, kind = .constant⟩] frame.scope }
  | .assign target =>
    (← evaluateTarget e frame target).write value
    return frame

def runRound (e : Evaluator) (frame : Frame) (labels : List Name) (round : Loop) : Eval Turn :=
  match round with
  | .while test body => do
    if (← e.expression frame test).truthy then
      runBody e frame labels body (return .again (.loop frame labels round))
    else return .ends .normal
  | .doWhile body test => runBody e frame labels body do
    if (← e.expression frame test).truthy then return .again (.loop frame labels round)
    else return .ends .normal
  | .for fresh test step body => do
    if ← holds e frame test then
      runBody e frame labels body do
        let next ← if fresh then freshScope frame else Eval.pure frame
        runOption e next step
        return .again (.loop next labels round)
    else return .ends .normal
  | .keys _ _ [] _ => return .ends .normal
  | .keys target subject (key :: left) body => do
    let next := return .again (.loop frame labels (.keys target subject left body))
    if ← hasProperty subject key then
      runBody e (← bindTarget e frame target (.text key)) labels body next
    else next
  | .items target subject index body => do
    if index < (← lengthOf (.object subject)) then
      let value ← getItem (.object subject) index
      runBody e (← bindTarget e frame target value) labels body
        (return .again (.loop frame labels (.items target subject (index + 1) body)))
    else return .ends .normal
  | .values _ [] _ => return .ends .normal
  | .values target (value :: left) body => do
    runBody e (← bindTarget e frame target value) labels body
      (return .again (.loop frame labels (.values target left body)))

end Eval
end ScriptedTask.Script
