import ScriptedTask.Script.Error
import ScriptedTask.Script.Grammar.Statement
import ScriptedTask.Script.Machine

/-! From the text of a script to its behaviour. A text must first be readable as the body of a
function, where it need not be strict; then it runs as a strict program. -/

namespace ScriptedTask.Script

open Text (Units)

/-- What becomes of a text before anything of it runs. -/
inductive Start where
  /-- No script could run under these limits. -/
  | refused (message : String)
  | unreadable (message : String)
  | runs (behaviour : Behaviour)

abbrev Interpreter := RunSettings → List Session.Global → String → Start

/-- Bytes that every script takes before it starts. -/
def startingSize : Nat := 160000

/-- Steps that fit in a millisecond. -/
def stepsPerMs : Nat := 2000

/-- Steps that every script may make, however short its time is. -/
def leastSteps : Nat := 10000

def budgetOf (settings : RunSettings) : Nat := leastSteps + stepsPerMs * settings.timeoutMs

/-- A limit of zero is none. -/
def limitOf (settings : RunSettings) : Option Nat := settings.memoryLimit.filter (· ≠ 0)

def startingHeap (settings : RunSettings) (globals : List Session.Global) : Heap :=
  { Realm.withGlobals globals with
    used := startingSize, limit := limitOf settings, budget := budgetOf settings }

def endsWith (exception : Uncaught) : Behaviour := .ended (.thrown exception)

def syntaxException (message : String) : Uncaught :=
  { text := "SyntaxError: " ++ message, message := some message }

/-- Names that a program may not declare anew, because they belong to fixed globals. -/
def redeclaresConstant (program : Program) : Bool :=
  let .mk lexicals _ _ := program.body
  lexicals.any fun entry => Realm.isTaken (showKey entry.1)

/-- How many bytes come before the first NUL, if there is one. -/
def nulPosition? (text : List Char) : Option Nat :=
  if text.contains '\x00' then some (Text.byteCount (text.takeWhile (· ≠ '\x00'))) else none

def runStrictly (settings : RunSettings) (globals : List Session.Global) (text : List Char) : Behaviour :=
  match nulPosition? text with
  | some position => endsWith
      { text := "String contained internal null bytes: nul byte found in provided data at position: " ++
          toString position }
  | none =>
    match Program.read true text with
    | .error fault => endsWith (syntaxException fault.message)
    | .ok program =>
      if redeclaresConstant program then endsWith (syntaxException "redeclaration of a name")
      else
        let e := Eval.evaluator program.depth
        Machine.drive e (budgetOf settings) [] (.script (Eval.runToEnd e program (startingHeap settings globals)))

def lacksRoom (settings : RunSettings) : Bool :=
  match limitOf settings with
  | some limit => limit < startingSize
  | none => false

def interpret : Interpreter := fun settings globals source =>
  let text := source.toList
  if lacksRoom settings then .refused "Allocation failed while creating object"
  else
    match Program.read false (functionText text) with
    | .error fault => .unreadable fault.message
    | .ok _ =>
      if globals.any fun entry => Realm.isTaken entry.target then .refused "Exception generated by QuickJS"
      else .runs (runStrictly settings globals text)

end ScriptedTask.Script
