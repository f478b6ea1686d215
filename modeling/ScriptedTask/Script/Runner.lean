import ScriptedTask.Script.Error
import ScriptedTask.Script.Interpreter
import ScriptedTask.Text.Blank

/-! Runs the script of a phase against a session. Whatever the script does, the session comes
back with all it did, and the caller learns of at most one error. -/

namespace ScriptedTask.Script

/-- Queries may shadow neither capabilities nor one another. -/
def checkTargets (seen : List String) : List String → Except ScriptError Unit
  | [] => .ok ()
  | target :: rest =>
    if capabilityTargets.contains target then
      .error (.engine ("external query '" ++ target ++ "' would shadow the '" ++ target ++ "' capability"))
    else if seen.contains target then
      .error (.engine ("external query '" ++ target ++ "' is registered more than once"))
    else checkTargets (target :: seen) rest

/-- An exception is traced to the last failed call if their messages agree. -/
def causeOf (exception : Uncaught) (lastFailure : Option CallError) : Option CallError :=
  match exception.message with
  | some message => lastFailure.filter fun problem => problem.message = message
  | none => none

def Ending.error? (settings : RunSettings) (lastFailure : Option CallError) : Ending → Except ScriptError Unit
  | .finished => .ok ()
  | .outOfTime => .error (.timeout settings.timeoutMs)
  | .thrown exception => .error (.runtime exception.text (causeOf exception lastFailure))

/-- The failure of an answer, or else the one before it. -/
def laterFailure (answer : Answer) (lastFailure : Option CallError) : Option CallError :=
  match answer with
  | .error problem => some problem
  | .ok _ => lastFailure

/-- Answers the calls of a script one after the other. -/
def Behaviour.perform {m : Type → Type} [Monad m] (settings : RunSettings) (provider : Option (TokenSource m)) :
    Behaviour → Option CallError → Session → m (Except ScriptError Unit × Session)
  | .ended ending, lastFailure, session => pure (ending.error? settings lastFailure, session)
  | .call request resume, lastFailure, session => do
    let (answer, session) ← session.invoke provider request
    perform settings provider (resume answer) (laterFailure answer lastFailure) session

/-- Runs a source. A blank one is not read at all. -/
def runSource {m : Type → Type} [Monad m] (interpreter : Interpreter) (settings : RunSettings)
    (provider : Option (TokenSource m)) (source : String) (session : Session) :
    m (Except ScriptError Unit × Session) :=
  match checkTargets [] (session.queries.map Query.target) with
  | .error error => pure (.error error, session)
  | .ok () =>
    if Text.isBlankText source then pure (.ok (), session)
    else
      match interpreter settings session.globals source with
      | .refused message => pure (.error (.engine message), session)
      | .unreadable message => pure (.error (.compile message), session)
      | .runs behaviour => behaviour.perform settings provider none session

end ScriptedTask.Script
