import ScriptedTask.Capability.Fixture
import ScriptedTask.Storage.Access
import ScriptedTask.Wire.Format

/-! Fixtures in files. -/

namespace ScriptedTask.FixtureFile

def decode? (text : String) : Option Values := Json.Part.ofText? text >>= Wire.jsonFormat.values?

/-- Stands for what the reader of fixtures says about a text that it cannot read. -/
def unreadableText : String := "not an object of globals"

def ofFile (path : String) (content : Except FileError String) : Except Failure (List Query) :=
  match content with
  | .error problem => .error ⟨"read fixtures " ++ path, [problem.reason]⟩
  | .ok text =>
    match decode? text with
    | none => .error ⟨"parse fixtures " ++ path, [unreadableText]⟩
    | some document =>
      match Fixture.queries document with
      | .ok queries => .ok queries
      | .error problem => .error ⟨problem.message, []⟩

/-- The queries of a file, one for each global. -/
def load {m : Type → Type} [Monad m] (files : FileAccess m) (path : String) : m (Except Failure (List Query)) := do
  return ofFile path (← files.read path)

end ScriptedTask.FixtureFile
