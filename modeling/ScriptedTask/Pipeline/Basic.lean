import ScriptedTask.Pipeline.Error
import ScriptedTask.Script.Runner

/-! A pipeline carries a task through its stages: it loads the variables of the process instance,
runs the scripts before the handler, substitutes references in the inputs, lets the handler work,
runs the scripts after it, and stores the variables that scripts changed. The first failure ends
the invocation; nothing is tried again or taken back.

The pipeline reaches its collaborators through an arbitrary monad. -/

namespace ScriptedTask

/-- Where the variables of process instances are kept. -/
structure Repository (m : Type → Type) where
  load : String → m (Except Failure Values)
  /-- Adds changes to the variables of an instance. -/
  store : String → Values → m (Except Failure Unit)

/-- The work that a pipeline is wrapped around. -/
structure Handler (m : Type → Type) where
  handle : Task → m (Except Failure Outcome)
  /-- Makes up for modules after something later failed. -/
  undo : List Module → Failure → m Unit

/-- What has come of a task when nothing but storing is left to do. -/
structure Prepared where
  modules : List Module
  outputs : Values
  changes : Values

structure Pipeline (m : Type → Type) where
  handler : Handler m
  repository : Repository m
  interpreter : Script.Interpreter
  settings : RunSettings := {}
  queries : List Query := []
  tokens : Option (TokenSource m) := none
  /-- Is told of every stage that a task enters, and of the task without its inputs. -/
  observe : Task → Stage → m Unit

namespace Pipeline

variable {m : Type → Type} [Monad m]

/-- What one invocation of a pipeline may do. -/
abbrev Step (m : Type → Type) := ExceptT PipelineError m

/-- Lets a collaborator act; a failure of it becomes a failure of the invocation. -/
def consult {α : Type} (blame : Failure → PipelineError) (action : m (Except Failure α)) : Step m α :=
  ExceptT.mk do
    match ← action with
    | .ok value => return .ok value
    | .error failure => return .error (blame failure)

def enter (pipeline : Pipeline m) (task : Task) (stage : Stage) : Step m Unit :=
  ExceptT.lift (pipeline.observe (task.withInputs Inputs.empty) stage)

def load (pipeline : Pipeline m) (instanceId : String) : Step m Values :=
  consult (.fetchVariables instanceId) (pipeline.repository.load instanceId)

/-- The session in which the scripts of a phase run. -/
def session (pipeline : Pipeline m) (inputs snapshot outputs : Values) (token : TokenCache) : Session :=
  { Session.start snapshot inputs outputs pipeline.settings.strictDeref with
    queries := pipeline.queries, token }

/-- Runs the scripts of a phase. The token is handed on to the next phase. -/
def runPhase (pipeline : Pipeline m) (phase : Phase) (inputs snapshot outputs : Values)
    (token : TokenCache) : Step m (PhaseResult × TokenCache) :=
  ExceptT.mk do
    let (result, session) ← Script.runSource pipeline.interpreter pipeline.settings pipeline.tokens
      (Fragment.assemble inputs phase) (pipeline.session inputs snapshot outputs token)
    match result with
    | .ok () => return .ok (session.outcome, session.token)
    | .error source => return .error (.script phase source)

def substitute (task : Task) (current : Values) : Step m Task :=
  match task.inputs.substitute current with
  | .ok inputs => pure (task.withInputs inputs)
  | .error source => throw (.substitution source)

def handle (pipeline : Pipeline m) (task : Task) : Step m Outcome :=
  consult .handler (pipeline.handler.handle task)

/-- Stores changes, if there are any. -/
def persist (pipeline : Pipeline m) (instanceId : String) (changes : Values) : Step m Unit :=
  if changes.isEmpty then pure ()
  else consult (.persistence instanceId) (pipeline.repository.store instanceId changes)

/-- Carries a task through all stages up to storing. The outputs are those of both phases and the
handler, later ones over earlier ones. -/
def prepare (pipeline : Pipeline m) (task : Task) : Step m Prepared := do
  let inputs := task.inputs.values
  pipeline.enter task .fetchContext
  let snapshot ← pipeline.load task.instanceId
  pipeline.enter task .runPreScripts
  let (before, token) ←
    pipeline.runPhase .pre inputs snapshot SortedMap.empty { instanceId := task.instanceId }
  pipeline.enter task .mergeVariables
  let current := snapshot.overlay before.updates
  pipeline.enter task .substituteReferences
  let substituted ← substitute task current
  pipeline.enter task .invokeHandler
  let handled ← pipeline.handle substituted
  pipeline.enter task .mergeOutputs
  let outputs := before.outputs.overlay handled.outputs
  pipeline.enter task .runPostScripts
  let (after, _) ← pipeline.runPhase .post inputs current outputs token
  pipeline.enter task .mergeFinal
  let changes := before.updates.overlay after.updates
  pipeline.enter task .persistIfChanged
  return { modules := handled.modules, outputs := after.outputs, changes }

/-- Stores what scripts changed, and is done. -/
def complete (pipeline : Pipeline m) (task : Task) (prepared : Prepared) : Step m Outcome := do
  pipeline.persist task.instanceId prepared.changes
  pipeline.enter task .done
  return { modules := prepared.modules, outputs := prepared.outputs }

/-- Carries a task through all stages. -/
def execute (pipeline : Pipeline m) (task : Task) : Step m Outcome := do
  pipeline.complete task (← pipeline.prepare task)

/-- Runs one phase by itself, under a token of its own. -/
def runAlone (pipeline : Pipeline m) (phase : Phase) (task : Task) (snapshot outputs : Values) :
    Step m PhaseResult := do
  let (outcome, _) ←
    pipeline.runPhase phase task.inputs.values snapshot outputs { instanceId := task.instanceId }
  return outcome

/-- Runs the scripts before the handler on the given variables. -/
def runBefore (pipeline : Pipeline m) (task : Task) (snapshot : Values) : Step m PhaseResult :=
  pipeline.runAlone .pre task snapshot SortedMap.empty

/-- Runs the scripts after the handler on top of the outputs so far. -/
def runAfter (pipeline : Pipeline m) (task : Task) (outputs snapshot : Values) : Step m PhaseResult :=
  pipeline.runAlone .post task snapshot outputs

def undo (pipeline : Pipeline m) (modules : List Module) (reason : Failure) : m Unit :=
  pipeline.handler.undo modules reason

/-- A pipeline can itself be the handler of another. -/
def asHandler (pipeline : Pipeline m) : Handler m where
  handle task := do
    match ← (pipeline.execute task).run with
    | .ok outcome => return .ok outcome
    | .error error => return .error error.failure
  undo := pipeline.undo

end Pipeline
end ScriptedTask
