import ScriptedTask.Capability.Session
import ScriptedTask.Json.Printer

/-! Stand-ins for queries. A document of fixtures holds, for every global and every method of it,
the answer to each first argument. -/

namespace ScriptedTask

inductive FixtureError where
  | reserved (target : String)
  | notMethods (target : String)
deriving DecidableEq

def FixtureError.message : FixtureError → String
  | .reserved target => "fixtures may not replace the built-in '" ++ target ++ "' capability"
  | .notMethods target => "fixtures for '" ++ target ++ "' must be an object of methods"

namespace Fixture

/-- What an answer is looked up by: a text itself, or else the text of the value. -/
def key (arguments : List Json) : String :=
  match arguments with
  | .string text :: _ => text
  | other :: _ => other.text
  | [] => Json.null.text

def answer (target : String) (methods : Values) (method : String) (arguments : List Json) :
    Except Failure Json :=
  match methods.get? method with
  | some (.object answers) =>
    match answers.get? (key arguments) with
    | some found => .ok found
    | none => .error ⟨"no fixture for " ++ target ++ "." ++ method ++ "(" ++ key arguments ++ ")", []⟩
  | _ => .error ⟨"no fixtures for " ++ target ++ "." ++ method, []⟩

def query (target : String) (methods : Values) : Query where
  target
  methods := methods.keys
  call method arguments := .answer (answer target methods method arguments)

def query? (target : String) (value : Json) : Except FixtureError Query :=
  if capabilityTargets.contains target then .error (.reserved target)
  else
    match value with
    | .object methods => .ok (query target methods)
    | _ => .error (.notMethods target)

/-- One query for each global, or the first that cannot be one. -/
def queries (document : Values) : Except FixtureError (List Query) :=
  document.toList.mapM fun entry => query? entry.1 entry.2

end Fixture
end ScriptedTask
