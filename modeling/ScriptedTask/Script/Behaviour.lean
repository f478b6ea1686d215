import ScriptedTask.Capability.Session

/-! What a script does, seen from outside: the calls it makes one after the other, each depending
on the answers before it, and how it ends. -/

namespace ScriptedTask.Script

/-- An exception that no handler took. -/
structure Uncaught where
  /-- How it is reported. -/
  text : String
  /-- The message of an error; nothing for other values. -/
  message : Option String := none
  /-- The failed call that raised it, counted from zero. -/
  origin : Option Nat := none
deriving DecidableEq

inductive Ending where
  | finished
  | outOfTime
  | thrown (exception : Uncaught)
deriving DecidableEq

inductive Behaviour where
  | ended (ending : Ending)
  | call (call : Call) (resume : Answer → Behaviour)

end ScriptedTask.Script
