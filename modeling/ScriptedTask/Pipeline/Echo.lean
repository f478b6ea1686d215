import ScriptedTask.Pipeline.Basic

/-! A stand-in for a handler: it hands back the inputs it was given, fragments of scripts
included, as its single output. -/

namespace ScriptedTask

def echoed (task : Task) : Outcome where
  outputs := SortedMap.ofList [("inputs", .object task.inputs.values)]

def Handler.echo {m : Type → Type} [Monad m] : Handler m where
  handle task := pure (.ok (echoed task))
  undo _ _ := pure ()

end ScriptedTask
