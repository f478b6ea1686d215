import ScriptedTask.Capability.Call

/-! The variables of a process instance as one phase sees them, and what the phase wrote. A
strict store refuses to take a reference apart whose name is not bound. -/

namespace ScriptedTask

structure Variables where
  current : Values
  pending : Values := SortedMap.empty
  strict : Bool := false

namespace Variables

def write (name : String) (value : Json) (store : Variables) : Variables :=
  { store with current := store.current.insert name value, pending := store.pending.insert name value }

def read? (store : Variables) (name : String) : Option Json := store.current.get? name

def isBound (store : Variables) (name : String) : Bool := store.current.contains name

/-- The token of a bound name. -/
def reference (store : Variables) (name : String) : Except CallError String :=
  if store.isBound name then .ok (Reference.token name) else .error (.unknownVariable name)

def referencedName (store : Variables) (reference : String) : Except CallError String :=
  match Reference.parse reference with
  | .error problem => .error (.reference problem)
  | .ok name => if store.strict && !store.isBound name then .error (.unknownVariable name) else .ok name

def referencedValue (store : Variables) (reference : String) : Except CallError (Option Json) :=
  (store.referencedName reference).map store.read?

/-- The template filled in from the variables as they are now. -/
def fillTemplate (store : Variables) (template : String) : Except CallError String :=
  ((Placeholders.ofVariables store.current).render template).mapError .template

def capability : Capability Variables where
  target := "variables"
  methods := [
    .writing "write" write,
    .reading "read" fun call store => (call.text 0).map store.read?,
    .reading "exists" fun call store => (call.text 0).map fun name => some (.bool (store.isBound name)),
    .reading "ref" fun call store => do return some (.string (← store.reference (← call.text 0))),
    .reading "derefName" fun call store => do return some (.string (← store.referencedName (← call.text 0))),
    .reading "derefValue" fun call store => do store.referencedValue (← call.text 0),
    .reading "derefTemplate" fun call store => do return some (.string (← store.fillTemplate (← call.text 0)))]

end Variables
end ScriptedTask
