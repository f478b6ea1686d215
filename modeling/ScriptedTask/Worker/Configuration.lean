import ScriptedTask.Failure
import ScriptedTask.Script.Error
import ScriptedTask.Storage.Access
import ScriptedTask.Wire.Document
import ScriptedTask.Wire.Format
import ScriptedTask.Worker.Environment

/-! The configuration of the worker: its defaults, over them what the file says, and over both
what the environment says. The result must be valid as a whole. -/

namespace ScriptedTask

open Wire

structure Configuration where
  scriptTimeoutMs : Nat := 2000
  strictDeref : Bool := false
  memoryLimit : Option Nat := none
deriving DecidableEq

inductive ConfigurationError where
  | unreadable (path reason : String)
  | malformed (path reason : String)
  /-- A variable of the environment holds no value of its field. -/
  | setting (name value reason : String)
  | invalid (field reason : String)
deriving DecidableEq

namespace ConfigurationError

def message : ConfigurationError → String
  | unreadable path reason => "failed to read config file '" ++ path ++ "': " ++ reason
  | malformed path reason => "failed to parse config file '" ++ path ++ "': " ++ reason
  | setting name value reason => "invalid value '" ++ value ++ "' in " ++ name ++ ": " ++ reason
  | invalid field reason => "invalid configuration: " ++ field ++ " " ++ reason

/-- What the file could not be read or understood for is told once more as the cause. -/
def failure (problem : ConfigurationError) : Failure :=
  match problem with
  | unreadable _ reason | malformed _ reason => ⟨problem.message, [reason]⟩
  | setting .. | invalid .. => ⟨problem.message, []⟩

end ConfigurationError

namespace Configuration

def pathVariable : String := "TASKWRAP_CONFIG_PATH"

def timeoutVariable : String := "TASKWRAP_SCRIPT_TIMEOUT_MS"

def strictVariable : String := "TASKWRAP_STRICT_DEREF"

def memoryVariable : String := "TASKWRAP_SCRIPT_MEMORY_LIMIT_BYTES"

/-- All variables of the environment that matter. -/
def variableNames : List String :=
  ["HOME", "XDG_CONFIG_HOME", pathVariable, timeoutVariable, strictVariable, memoryVariable]

def fileName : String := "config.json"

def fieldNames : List String := ["scriptTimeoutMs", "strictDeref", "scriptMemoryLimitBytes"]

def count? {α : Type} (format : Format α) (part : α) : Option Nat :=
  match format.value? part with
  | some (.integer value _) => if value < 0 then none else some value.toNat
  | _ => none

def flag? {α : Type} (format : Format α) (part : α) : Option Bool :=
  match format.value? part with
  | some (.bool value) => some value
  | _ => none

def decode? {α : Type} (format : Format α) (part : α) : Option Configuration := do
  let fields ← format.fields? fieldNames part
  let default : Configuration := {}
  return {
    scriptTimeoutMs := ← fields.orElse? "scriptTimeoutMs" default.scriptTimeoutMs (count? format)
    strictDeref := ← fields.orElse? "strictDeref" default.strictDeref (flag? format)
    memoryLimit := ← fields.orElse? "scriptMemoryLimitBytes" default.memoryLimit (format.optional? (count? format)) }

def countDocument (value : Nat) : Document :=
  .value (if inRange : InRange value then .integer value inRange else .null)

/-- The memory limit is written only if there is one. -/
def document (config : Configuration) : Document :=
  .record ([("scriptTimeoutMs", countDocument config.scriptTimeoutMs),
    ("strictDeref", .value (.bool config.strictDeref))] ++
    match config.memoryLimit with
    | some limit => [("scriptMemoryLimitBytes", countDocument limit)]
    | none => [])

/-- Reads digits as a number below 2^64. The first digit that is none, or that leads too far, is the fault. -/
def countDigits (value : Nat) : List Char → Except String Nat
  | [] => .ok value
  | c :: rest =>
    if c.isDigit then
      let next := 10 * value + (c.toNat - 48)
      if next < 0x10000000000000000 then countDigits next rest else .error "number too large to fit in target type"
    else .error "invalid digit found in string"

/-- A number in decimal digits, which may have a plus sign. -/
def readCount (text : String) : Except String Nat :=
  match text.toList with
  | '+' :: [] => .error "invalid digit found in string"
  | '+' :: digits => countDigits 0 digits
  | digits => countDigits 0 digits

def yesWords : List String := ["1", "t", "true", "yes"]

def noWords : List String := ["0", "f", "false", "no"]

def lowerWord (text : String) : String := String.ofList (text.toList.map Char.toLower)

def readFlag (text : String) : Except String Bool :=
  if yesWords.contains (lowerWord text) then .ok true
  else if noWords.contains (lowerWord text) then .ok false
  else .error "expected a boolean"

/-- What a variable says, if it is set and not blank. -/
def setting? {α : Type} (environment : Environment) (name : String) (read : String → Except String α) :
    Except ConfigurationError (Option α) :=
  match (environment name).filter (!Text.isBlankText ·) with
  | none => .ok none
  | some text =>
    let trimmed := Text.trim text
    match read trimmed with
    | .ok value => .ok (some value)
    | .error reason => .error (.setting name trimmed reason)

/-- Lays the environment over a configuration. -/
def override (environment : Environment) (config : Configuration) : Except ConfigurationError Configuration := do
  let timeout ← setting? environment timeoutVariable readCount
  let strict ← setting? environment strictVariable readFlag
  let memory ← setting? environment memoryVariable readCount
  return {
    scriptTimeoutMs := timeout.getD config.scriptTimeoutMs
    strictDeref := strict.getD config.strictDeref
    memoryLimit := memory.orElse fun () => config.memoryLimit }

def validate (config : Configuration) : Except ConfigurationError Unit :=
  if config.scriptTimeoutMs = 0 then .error (.invalid "scriptTimeoutMs" "must be greater than zero")
  else if config.memoryLimit = some 0 then
    .error (.invalid "scriptMemoryLimitBytes" "must be greater than zero when set")
  else .ok ()

/-- Stands for what the reader of configurations says about a text that it cannot read. -/
def unreadableText : String := "not a configuration"

/-- The configuration of a file; a file that is not there leaves the defaults. -/
def ofFile (path : String) (content : Except FileError String) : Except ConfigurationError Configuration :=
  match content with
  | .ok text =>
    match (Json.Part.ofText? text).bind (decode? jsonFormat) with
    | some config => .ok config
    | none => .error (.malformed path unreadableText)
  | .error (.missing _) => .ok {}
  | .error (.other reason) => .error (.unreadable path reason)

def layered (environment : Environment) (path : String) (content : Except FileError String) :
    Except ConfigurationError Configuration := do
  let config ← (← ofFile path content).override environment
  config.validate
  return config

/-- Where the configuration is found unless another path is asked for. -/
def defaultPath (environment : Environment) : String := environment.configuredPath pathVariable fileName

variable {m : Type → Type} [Monad m]

def load (files : FileAccess m) (environment : Environment) (path : String) :
    m (Except ConfigurationError Configuration) := do
  return layered environment path (← files.read path)

def runSettings (config : Configuration) : RunSettings where
  timeoutMs := config.scriptTimeoutMs
  strictDeref := config.strictDeref
  memoryLimit := config.memoryLimit

end Configuration
end ScriptedTask
