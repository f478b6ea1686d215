/-! The arguments of the command line. Options have values, given after an equals sign, after a
short option directly, or as the next argument, which then must not look like an option. Two
hyphens end the options. No value may be empty, and no option may be given twice at one place. -/

namespace ScriptedTask

inductive Command where
  | run (tasks : List String) (variablesPath : String) (fixtures : Option String)
  | render (task variablesPath : String)
deriving DecidableEq

structure Invocation where
  config : Option String := none
  command : Option Command := none
deriving DecidableEq

/-- Why arguments lead to no invocation. -/
inductive Refusal where
  | help
  | misuse
deriving DecidableEq

namespace Arguments

/-- An option with its long name and, if it has one, its letter. -/
structure Choice where
  long : String
  letter : Option Char := none

def config : Choice := { long := "config" }

def variablesFile : Choice := { long := "variables", letter := some 'v' }

def fixtures : Choice := { long := "fixtures" }

inductive Word where
  | option (long value : String)
  | plain (text : String)
  /-- All arguments after this one are plain. -/
  | separator

def looksLikeOption (text : String) : Bool :=
  match text.toList with
  | '-' :: _ :: _ => true
  | _ => false

def optionWord (long value : String) (rest : List String) : Except Refusal (Word × List String) :=
  if value.isEmpty then .error .misuse else .ok (.option long value, rest)

/-- The value of an option is the next argument. -/
def takeNext (long : String) (rest : List String) : Except Refusal (Word × List String) :=
  match rest with
  | value :: rest => if looksLikeOption value then .error .misuse else optionWord long value rest
  | [] => .error .misuse

/-- An argument after its two hyphens. -/
def readLong (choices : List Choice) (text : List Char) (rest : List String) :
    Except Refusal (Word × List String) :=
  let name := String.ofList (text.takeWhile (· ≠ '='))
  if choices.any (·.long = name) then
    match text.dropWhile (· ≠ '=') with
    | _ :: value => optionWord name (String.ofList value) rest
    | [] => takeNext name rest
  else if text = "help".toList then .error .help
  else .error .misuse

/-- An argument after its single hyphen. -/
def readShort (choices : List Choice) (letter : Char) (text : List Char) (rest : List String) :
    Except Refusal (Word × List String) :=
  match choices.find? (·.letter = some letter) with
  | some choice =>
    match text with
    | [] => takeNext choice.long rest
    | '=' :: value => optionWord choice.long (String.ofList value) rest
    | value => optionWord choice.long (String.ofList value) rest
  | none => if letter = 'h' then .error .help else .error .misuse

def readWord (choices : List Choice) (argument : String) (rest : List String) :
    Except Refusal (Word × List String) :=
  match argument.toList with
  | ['-', '-'] => .ok (.separator, rest)
  | '-' :: '-' :: text => readLong choices text rest
  | '-' :: letter :: text => readShort choices letter text rest
  | _ => .ok (.plain argument, rest)

/-- The options and the plain arguments of a command. -/
structure Given where
  options : List (String × String) := []
  plain : List String := []

namespace Given

def addOption (given : Given) (long value : String) : Except Refusal Given :=
  if (given.options.lookup long).isSome then .error .misuse
  else .ok { given with options := (long, value) :: given.options }

def addPlain (given : Given) (most : Option Nat) (text : String) : Except Refusal Given :=
  if text.isEmpty ∨ most.any (· ≤ given.plain.length) then .error .misuse
  else .ok { given with plain := given.plain ++ [text] }

def option? (given : Given) (choice : Choice) : Option String := given.options.lookup choice.long

/-- The value of an option that must be there. -/
def required (given : Given) (choice : Choice) : Except Refusal String :=
  match given.option? choice with
  | some value => .ok value
  | none => .error .misuse

end Given

/-- Reads the arguments of a command, which takes at most so many plain ones. `fuel` bounds their number. -/
def readGiven (choices : List Choice) (most : Option Nat) : Nat → Given → List String → Except Refusal Given
  | _, given, [] => .ok given
  | 0, _, _ => .error .misuse
  | fuel + 1, given, argument :: rest => do
    match ← readWord choices argument rest with
    | (.option long value, rest) => readGiven choices most fuel (← given.addOption long value) rest
    | (.plain text, rest) => readGiven choices most fuel (← given.addPlain most text) rest
    | (.separator, rest) => rest.foldlM (fun given text => given.addPlain most text) given

def readRun (arguments : List String) : Except Refusal (Option String × Command) := do
  let given ← readGiven [variablesFile, fixtures, config] none arguments.length {} arguments
  let path ← given.required variablesFile
  if given.plain.isEmpty then .error .misuse
  else return (given.option? config, .run given.plain path (given.option? fixtures))

def readRender (arguments : List String) : Except Refusal (Option String × Command) := do
  let given ← readGiven [variablesFile, config] (some 1) arguments.length {} arguments
  let path ← given.required variablesFile
  match given.plain with
  | [task] => return (given.option? config, .render task path)
  | _ => .error .misuse

def commandNames : List String := ["run", "render", "help"]

/-- The arguments from the name of a command on. -/
def readCommand (name : String) (arguments : List String) : Except Refusal (Option String × Command) :=
  match name with
  | "run" => readRun arguments
  | "render" => readRender arguments
  | "help" =>
    match arguments with
    | [] => .error .help
    | [other] => if commandNames.contains other then .error .help else .error .misuse
    | _ => .error .misuse
  | _ => .error .misuse

/-- The arguments before the name of a command. What is said after the name counts more. -/
def readFrom : Nat → Option String → List String → Except Refusal Invocation
  | _, outer, [] => .ok { config := outer }
  | 0, _, _ => .error .misuse
  | fuel + 1, outer, argument :: rest => do
    match ← readWord [config] argument rest with
    | (.option _ value, rest) => if outer.isSome then .error .misuse else readFrom fuel (some value) rest
    | (.plain name, rest) =>
      let (inner, command) ← readCommand name rest
      return { config := inner.orElse fun () => outer, command := some command }
    | (.separator, rest) => if rest.isEmpty then return { config := outer } else .error .misuse

def read (arguments : List String) : Except Refusal Invocation := readFrom arguments.length none arguments

/-- How the program is used. -/
def usage : List String :=
  ["Run external tasks through pre/post scripts and variable substitution", "",
    "Usage: taskwrap [--config <PATH>] run <TASKS>... --variables <PATH> [--fixtures <PATH>]",
    "       taskwrap [--config <PATH>] render <TASK> --variables <PATH>"]

end Arguments
end ScriptedTask
