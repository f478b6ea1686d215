import ScriptedTask.Capability.Error

/-! Calls that scripts make, and tables of methods that answer them. An argument may be absent,
and an answer may be, too: that is the script's undefined value. -/

namespace ScriptedTask

structure Call where
  target : String
  method : String
  arguments : List (Option Json)

namespace Call

def argument? (call : Call) (position : Nat) : Option Json := (call.arguments[position]?).join

/-- The argument as a name, which has to be a string. -/
def text (call : Call) (position : Nat) : Except CallError String :=
  match call.argument? position with
  | some (.string text) => .ok text
  | some other => .error (.invalidArgument call.target call.method (.notText position other.kind))
  | none => .error (.invalidArgument call.target call.method (.absent position))

def valueAt (call : Call) (position : Nat) : Json := (call.argument? position).getD .null

/-- All arguments, with null for absent ones. -/
def values (call : Call) : List Json := call.arguments.map (·.getD .null)

end Call

abbrev Answer := Except CallError (Option Json)

structure Method (σ : Type) where
  name : String
  run : Call → σ → Answer × σ

namespace Method

/-- A method that only looks. -/
def reading {σ : Type} (name : String) (answer : Call → σ → Answer) : Method σ :=
  ⟨name, fun call state => (answer call state, state)⟩

/-- A method that takes a name and a value, and changes the state. -/
def writing {σ : Type} (name : String) (change : String → Json → σ → σ) : Method σ where
  name := name
  run call state :=
    match call.text 0 with
    | .ok name => (.ok none, change name (call.valueAt 1) state)
    | .error problem => (.error problem, state)

end Method

/-- A global of scripts with its methods, in the order in which scripts see them. -/
structure Capability (σ : Type) where
  target : String
  methods : List (Method σ)

def Capability.invoke {σ : Type} (capability : Capability σ) (call : Call) (state : σ) : Answer × σ :=
  match capability.methods.find? (·.name = call.method) with
  | some method => method.run call state
  | none => (.error (.unknownMethod capability.target call.method), state)

end ScriptedTask
