import ScriptedTask.Capability.Call
import ScriptedTask.Capability.Token

/-! Remote look-ups that scripts reach under globals of their own. A look-up may ask for the
access token of the invocation, any number of times, before it answers. What it answers depends on
the method, the arguments and the tokens alone; queries whose answers change between two such calls
are not described. -/

namespace ScriptedTask

/-- One call of a query. -/
inductive QueryRun where
  | answer (result : Except Failure Json)
  | needToken (resume : Except CallError String → QueryRun)

structure Query where
  target : String
  methods : List String
  /-- What comes of a method with these arguments, whenever it is called. -/
  call : String → List Json → QueryRun

namespace QueryRun

def perform {m : Type → Type} [Monad m] (provider : Option (TokenSource m)) :
    QueryRun → TokenCache → m (Except Failure Json × TokenCache)
  | .answer result, token => pure (result, token)
  | .needToken resume, token => do
    let (fetched, token) ← token.get provider
    perform provider (resume fetched) token

end QueryRun

/-- Answers a call. Whatever made it fail is told in full. -/
def Query.invoke {m : Type → Type} [Monad m] (query : Query) (provider : Option (TokenSource m))
    (call : Call) (token : TokenCache) : m (Answer × TokenCache) := do
  let (result, token) ← (query.call call.method call.values).perform provider token
  match result with
  | .ok value => return (.ok (some value), token)
  | .error failure => return (.error (.external query.target call.method failure.text), token)

end ScriptedTask
