import ScriptedTask.Script.Operator

/-! Built-in functions: what they are given, where they are found, and what they do. -/

namespace ScriptedTask.Script

open Text (Units)

structure Invocation where
  this : Value
  arguments : List Value
  /-- A construction rather than a call. -/
  isNew : Bool := false

namespace Invocation

def argument (invocation : Invocation) (position : Nat) : Value := invocation.arguments.getD position .undefined

def has (invocation : Invocation) (position : Nat) : Bool := position < invocation.arguments.length

/-- An argument unless it is missing or undefined. -/
def given? (invocation : Invocation) (position : Nat) : Option Value :=
  match invocation.argument position with
  | .undefined => none
  | value => some value

end Invocation

structure Builtin where
  /-- The place of the object that holds the function under its name. -/
  holder : Nat
  name : String
  /-- The number of arguments that it declares. -/
  length : Nat
  run : Invocation → Eval Value
  /-- The parent of what the function constructs, if it does. -/
  constructs : Option Nat := none

namespace Eval

def property (name : String) : Units := Units.ofAscii name

/-- A position that may count from the end, kept within a length. -/
def position (length : Nat) (value : Value) (absent : Nat) : Eval Nat := do
  match value with
  | .undefined => return absent
  | _ =>
    let index ← toInteger value
    return if index < 0 then (index + length).toNat else min index.toNat length

/-- The number of the first index that passes the test. -/
def firstIndex (test : Nat → Eval Bool) : List Nat → Eval (Option Nat)
  | [] => return none
  | index :: rest => do if ← test index then return some index else firstIndex test rest

def indexValue : Option Nat → Value
  | some index => .int index
  | none => .int (-1)

end Eval
end ScriptedTask.Script
