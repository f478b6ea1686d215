/-! The stages of an invocation, in the order in which it enters them. -/

namespace ScriptedTask

inductive Stage where
  | fetchContext
  | runPreScripts
  | mergeVariables
  | substituteReferences
  | invokeHandler
  | mergeOutputs
  | runPostScripts
  | mergeFinal
  | persistIfChanged
  | done
deriving DecidableEq

namespace Stage

def name : Stage → String
  | fetchContext => "fetch_context"
  | runPreScripts => "run_pre_scripts"
  | mergeVariables => "merge_variables"
  | substituteReferences => "substitute_references"
  | invokeHandler => "invoke_handler"
  | mergeOutputs => "merge_outputs"
  | runPostScripts => "run_post_scripts"
  | mergeFinal => "merge_final"
  | persistIfChanged => "persist_if_changed"
  | done => "done"

/-- Every stage, first to last. -/
def all : List Stage :=
  [fetchContext, runPreScripts, mergeVariables, substituteReferences, invokeHandler, mergeOutputs,
    runPostScripts, mergeFinal, persistIfChanged, done]

end Stage
end ScriptedTask
