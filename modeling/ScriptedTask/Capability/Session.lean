import ScriptedTask.Capability.Inputs
import ScriptedTask.Capability.Outputs
import ScriptedTask.Capability.Query
import ScriptedTask.Capability.Variables

/-! Everything that the scripts of one phase may touch, and how it answers their calls. -/

namespace ScriptedTask

structure Session where
  store : Variables
  inputs : VisibleInputs
  outputs : Outputs
  queries : List Query := []
  token : TokenCache := {}

/-- The globals of the three capabilities, which no query may take. -/
def capabilityTargets : List String :=
  [Variables.capability.target, VisibleInputs.capability.target, Outputs.capability.target]

/-- What a phase adds to its invocation. -/
structure PhaseResult where
  updates : Values
  outputs : Values

namespace Session

/-- The session of a phase over a snapshot of the variables and the outputs of earlier stages. -/
def start (snapshot inputs outputs : Values) (strict : Bool) : Session where
  store := { current := snapshot, strict := strict }
  inputs := .ofInputs inputs
  outputs := ⟨outputs⟩

def outcome (session : Session) : PhaseResult := ⟨session.store.pending, session.outputs.values⟩

/-- A global of scripts and the methods it offers. -/
structure Global where
  target : String
  methods : List String

def globals (session : Session) : List Global :=
  ⟨Variables.capability.target, Variables.capability.methods.map Method.name⟩ ::
    ⟨VisibleInputs.capability.target, VisibleInputs.capability.methods.map Method.name⟩ ::
    ⟨Outputs.capability.target, Outputs.capability.methods.map Method.name⟩ ::
    session.queries.map fun query => ⟨query.target, query.methods⟩

/-- Answers a call to one of the three capabilities. -/
def invokeCapability? (session : Session) (call : Call) : Option (Answer × Session) :=
  if call.target = Variables.capability.target then
    let (answer, store) := Variables.capability.invoke call session.store
    some (answer, { session with store })
  else if call.target = VisibleInputs.capability.target then
    let (answer, inputs) := VisibleInputs.capability.invoke call session.inputs
    some (answer, { session with inputs })
  else if call.target = Outputs.capability.target then
    let (answer, outputs) := Outputs.capability.invoke call session.outputs
    some (answer, { session with outputs })
  else none

/-- Answers any call. Queries are found by their globals. -/
def invoke {m : Type → Type} [Monad m] (provider : Option (TokenSource m)) (session : Session)
    (call : Call) : m (Answer × Session) :=
  match session.invokeCapability? call with
  | some answered => pure answered
  | none =>
    match session.queries.find? (·.target = call.target) with
    | some query => do
      let (answer, token) ← query.invoke provider call session.token
      return (answer, { session with token })
    | none => pure (.error (.unknownMethod call.target call.method), session)

end Session
end ScriptedTask
