import ScriptedTask.Fragment
import ScriptedTask.Pipeline.Stage
import ScriptedTask.Script.Error
import ScriptedTask.Task.Substitution

/-! How an invocation can fail. Each failure belongs to the stage that it ended. -/

namespace ScriptedTask

inductive PipelineError where
  | fetchVariables (instanceId : String) (source : Failure)
  | script (phase : Phase) (source : ScriptError)
  | substitution (source : SubstitutionError)
  | handler (source : Failure)
  | persistence (instanceId : String) (source : Failure)

namespace PipelineError

/-- The stage that failed. -/
def stage : PipelineError → Stage
  | fetchVariables .. => .fetchContext
  | script .pre _ => .runPreScripts
  | script .post _ => .runPostScripts
  | substitution _ => .substituteReferences
  | handler _ => .invokeHandler
  | persistence .. => .persistIfChanged

/-- The error with its causes. What a handler or a substitution reports stands for itself; the
others are told under a description of what was tried. -/
def failure : PipelineError → Failure
  | fetchVariables instanceId source =>
    source.within ("failed to load variables of process instance '" ++ instanceId ++ "'")
  | script phase source => ⟨phase.word ++ " failed", source.chain⟩
  | substitution source => source.failure
  | handler source => source
  | persistence instanceId source =>
    source.within ("failed to persist variables of process instance '" ++ instanceId ++ "'")

def message (error : PipelineError) : String := error.failure.message

/-- The error and all its causes in one line. -/
def text (error : PipelineError) : String := error.failure.text

/-- The script's own error, if a script failed. -/
def scriptError? : PipelineError → Option ScriptError
  | script _ source => some source
  | _ => none

end PipelineError
end ScriptedTask
