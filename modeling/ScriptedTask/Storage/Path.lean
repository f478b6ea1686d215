/-! Paths are texts whose parts are separated by slashes. Joining neither resolves nor tidies
anything. A name at the end is found behind any slashes and single dots that follow it. -/

namespace ScriptedTask.Path

def isAbsolute (path : String) : Bool := path.toList.head? = some '/'

/-- What stands between the slashes. -/
def parts (path : String) : List String := (path.toList.splitOn '/').map String.ofList

/-- The second path as seen from the first; an absolute one stands for itself. -/
def join (base path : String) : String :=
  if isAbsolute path then path
  else if base.isEmpty || base.toList.getLast? = some '/' then base ++ path
  else base ++ "/" ++ path

/-- A path from its end, without the slashes and single dots there. -/
def dropEnd : List Char → List Char
  | '/' :: rest => dropEnd rest
  | '.' :: '/' :: rest => dropEnd rest
  | rest => rest

/-- What comes before the last part, read from its end, and the last part. -/
def splitLast (path : String) : List Char × List Char :=
  let reversed := dropEnd path.toList.reverse
  (reversed.dropWhile (· ≠ '/'), (reversed.takeWhile (· ≠ '/')).reverse)

/-- The name at the end of a path, if it ends in a name. -/
def fileName? (path : String) : Option (List Char) :=
  let (_, last) := splitLast path
  if last = [] ∨ last = ['.'] ∨ last = ['.', '.'] then none else some last

/-- The path without its last part; nothing for the root and for the empty path. -/
def parent? (path : String) : Option String :=
  let (front, last) := splitLast path
  if last = [] then none
  else
    match dropEnd front with
    | [] => some (if isAbsolute path then "/" else "")
    | rest => some (String.ofList rest.reverse)

/-- A name before and after its last point. A point in front is a part of the name. -/
def splitName (name : List Char) : List Char × Option (List Char) :=
  let reversed := name.reverse
  let ending := reversed.takeWhile (· ≠ '.')
  match reversed.dropWhile (· ≠ '.') with
  | [] => (name, none)
  | _ :: [] => (name, none)
  | _ :: stem => (stem.reverse, some ending.reverse)

def extension? (path : String) : Option String :=
  (fileName? path).bind fun name => (splitName name).2.map String.ofList

/-- Puts an ending after the last point of the name, or after the whole name. -/
def setExtension (path : List Char) (ending : String) : String :=
  let text := String.ofList path
  match fileName? text with
  | some name =>
    let (front, _) := splitLast text
    String.ofList (front.reverse ++ (splitName name).1) ++ "." ++ ending
  | none => text

/-- The path with another ending. The old one is cut off first, so of a name such as `..json` only
two points remain, which are no name and take no ending. -/
def withExtension (path ending : String) : String :=
  let whole := path.toList
  match extension? path with
  | some old => setExtension (whole.take (whole.length - old.length)) ending
  | none => setExtension whole ending

end ScriptedTask.Path
