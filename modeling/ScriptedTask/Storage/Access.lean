/-! Access to files. -/

namespace ScriptedTask

inductive FileError where
  /-- There is no such file. -/
  | missing (reason : String)
  | other (reason : String)
deriving DecidableEq

def FileError.reason : FileError → String
  | .missing reason => reason
  | .other reason => reason

structure FileAccess (m : Type → Type) where
  read : String → m (Except FileError String)
  write : String → String → m (Except FileError Unit)
  /-- Makes a directory and those above it, as far as they are missing. -/
  makeDirectories : String → m (Except FileError Unit)
  /-- Puts a file in the place of another. -/
  rename : String → String → m (Except FileError Unit)

end ScriptedTask
