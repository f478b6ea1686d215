import ScriptedTask.Capability.Error

/-! How a script can fail, and the limits that it runs under. -/

namespace ScriptedTask

structure RunSettings where
  timeoutMs : Nat := 2000
  /-- Names that are not bound cannot be taken from references. -/
  strictDeref : Bool := false
  memoryLimit : Option Nat := none
deriving DecidableEq

inductive ScriptError where
  | compile (message : String)
  /-- An exception that nothing caught, and the failed call that raised it. -/
  | runtime (message : String) (cause : Option CallError)
  | timeout (budgetMs : Nat)
  | engine (message : String)
deriving DecidableEq

namespace ScriptError

def message : ScriptError → String
  | .compile text => "script compile error: " ++ text
  | .runtime text _ => "script runtime error: " ++ text
  | .timeout budget => "script execution timeout after " ++ toString budget ++ "ms"
  | .engine text => "script engine error: " ++ text

/-- The message, and below it what caused it. -/
def chain (error : ScriptError) : List String :=
  error.message ::
    match error with
    | .runtime _ (some cause) => cause.chain
    | _ => []

end ScriptError
end ScriptedTask
