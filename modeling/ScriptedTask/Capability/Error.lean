import ScriptedTask.Template.Basic
import ScriptedTask.Template.Reference

/-! What can go wrong in a call that a script makes. -/

namespace ScriptedTask

/-- Why an argument does not serve as a name. Positions count from zero. -/
inductive ArgumentFault where
  | absent (position : Nat)
  | notText (position : Nat) (kind : String)
deriving DecidableEq

def ArgumentFault.message : ArgumentFault → String
  | .absent position => "argument " ++ toString (position + 1) ++ " is required"
  | .notText position kind => "argument " ++ toString (position + 1) ++ " must be a string, got " ++ kind

inductive CallError where
  | unknownVariable (name : String)
  | reference (problem : ReferenceError)
  | template (problem : TemplateError)
  | invalidArgument (target method : String) (fault : ArgumentFault)
  | unknownMethod (target method : String)
  | external (target method message : String)
  | token (message : String)
deriving DecidableEq

namespace CallError

def message : CallError → String
  | .unknownVariable name => "unknown variable name '" ++ name ++ "'"
  | .reference problem => "derefName: " ++ problem.message
  | .template problem => "derefTemplate failed: " ++ problem.message
  | .invalidArgument target method fault => target ++ "." ++ method ++ ": " ++ fault.message
  | .unknownMethod target method => "'" ++ target ++ "' has no method '" ++ method ++ "'"
  | .external target method text => target ++ "." ++ method ++ " failed: " ++ text
  | .token text => "failed to obtain invocation token: " ++ text

/-- The message, and below it the message of what caused it. -/
def chain (problem : CallError) : List String :=
  problem.message ::
    match problem with
    | .reference cause => [cause.message]
    | .template cause => [cause.message]
    | _ => []

end CallError
end ScriptedTask
