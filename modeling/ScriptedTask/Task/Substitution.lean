import ScriptedTask.Failure
import ScriptedTask.Task.Basic
import ScriptedTask.Template.Basic

/-! Substitution of references in the inputs of a task. Every input that is a string is a
template; all others pass through. The first input that is no template stops it. -/

namespace ScriptedTask

structure SubstitutionError where
  input : String
  source : TemplateError
deriving DecidableEq

def SubstitutionError.message (problem : SubstitutionError) : String :=
  "failed to substitute references in input '" ++ problem.input ++ "': " ++ problem.source.message

/-- The template's own problem is told twice: within the message, and as its cause. -/
def SubstitutionError.failure (problem : SubstitutionError) : Failure :=
  ⟨problem.message, [problem.source.message]⟩

def substituteInput (placeholders : Placeholders) (name : String) (input : TaskInput) :
    Except SubstitutionError TaskInput :=
  match input.value with
  | .string text =>
    match placeholders.render text with
    | .ok rendered => .ok { input with value := .string rendered }
    | .error source => .error ⟨name, source⟩
  | _ => .ok input

def Inputs.substitute (inputs : Inputs) (values : Values) : Except SubstitutionError Inputs :=
  inputs.change (substituteInput (Placeholders.ofVariables values))

end ScriptedTask
