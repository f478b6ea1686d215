import ScriptedTask.SortedMap
import ScriptedTask.Storage.Access
import ScriptedTask.Storage.Path

/-! Files held in memory. A path is followed part by part from the working directory or the root,
and every part but the last must be a directory. There are no links: two paths lead to one file only
if they name the same places on the way. -/

namespace ScriptedTask

inductive Entry where
  | file (text : String)
  | directory (entries : Ascending Entry none)

abbrev Directory := SortedMap Entry

namespace Directory

def find? : List String → Directory → Option Entry
  | [], entries => some (.directory entries)
  | [name], entries => entries.get? name
  | name :: rest, entries =>
    match entries.get? name with
    | some (.directory inner) => find? rest inner
    | _ => none

/-- Binds a place whose directory exists. -/
def put (entry : Entry) : List String → Directory → Directory
  | [], entries => entries
  | [name], entries => entries.insert name entry
  | name :: rest, entries =>
    match entries.get? name with
    | some (.directory inner) => entries.insert name (.directory (put entry rest inner))
    | _ => entries

def remove : List String → Directory → Directory
  | [], entries => entries
  | [name], entries => entries.erase name
  | name :: rest, entries =>
    match entries.get? name with
    | some (.directory inner) => entries.insert name (.directory (remove rest inner))
    | _ => entries

end Directory

mutual
/-- Every file with its text and every directory without one, by the path from here. -/
def Entry.listing (path : String) : Entry → List (String × Option String)
  | .file text => [(path, some text)]
  | .directory entries => (path ++ "/", none) :: Entry.listingAll (path ++ "/") entries

def Entry.listingAll {lower : Option String} (front : String) :
    Ascending Entry lower → List (String × Option String)
  | .nil => []
  | .cons name _ entry rest => entry.listing (front ++ name) ++ Entry.listingAll front rest
end

structure FileTree where
  root : Directory
  /-- The names on the way to the working directory. -/
  working : List String

namespace FileTree

def noEntry : FileError := .missing "No such file or directory (os error 2)"

def notDirectory : FileError := .other "Not a directory (os error 20)"

def isDirectory : FileError := .other "Is a directory (os error 21)"

/-- The place may be passed through. -/
def enter (tree : FileTree) (place : List String) : Except FileError Unit :=
  match Directory.find? place tree.root with
  | some (.directory _) => .ok ()
  | some (.file _) => .error notDirectory
  | none => .error noEntry

/-- One part of a path further. -/
def step (tree : FileTree) (place : List String) (part : String) : Except FileError (List String) := do
  tree.enter place
  if part = "" ∨ part = "." then return place
  else if part = ".." then return place.dropLast
  else return place ++ [part]

def start (tree : FileTree) (path : String) : List String := if Path.isAbsolute path then [] else tree.working

/-- Where a path leads; there may be nothing yet. -/
def locate (tree : FileTree) (path : String) : Except FileError (List String) :=
  if path.isEmpty then .error noEntry
  else (Path.parts path).foldlM tree.step (tree.start path)

def read (tree : FileTree) (path : String) : Except FileError String := do
  match Directory.find? (← tree.locate path) tree.root with
  | some (.file text) => return text
  | some (.directory _) => .error isDirectory
  | none => .error noEntry

def write (tree : FileTree) (path text : String) : Except FileError FileTree := do
  let place ← tree.locate path
  match Directory.find? place tree.root with
  | some (.directory _) => .error isDirectory
  | _ => return { tree with root := Directory.put (.file text) place tree.root }

def makeDirectory (tree : FileTree) (place : List String) : FileTree :=
  match Directory.find? place tree.root with
  | none => { tree with root := Directory.put (.directory SortedMap.empty) place tree.root }
  | some _ => tree

/-- Makes the parts of a path, one after the other. -/
def makeParts : List String → FileTree → List String → Except FileError FileTree
  | [], tree, place => (tree.enter place).map fun () => tree
  | part :: rest, tree, place => do
    let next ← tree.step place part
    makeParts rest (tree.makeDirectory next) next

def makeDirectories (tree : FileTree) (path : String) : Except FileError FileTree :=
  if path.isEmpty then .ok tree else makeParts (Path.parts path) tree (tree.start path)

/-- Makes the parts of a path up to the first that cannot be reached. -/
def makeSome : List String → FileTree → List String → FileTree
  | [], tree, _ => tree
  | part :: rest, tree, place =>
    match tree.step place part with
    | .ok next => makeSome rest (tree.makeDirectory next) next
    | .error _ => tree

def rename (tree : FileTree) (source target : String) : Except FileError FileTree := do
  let old ← tree.locate source
  let new ← tree.locate target
  match Directory.find? old tree.root, Directory.find? new tree.root with
  | none, _ => .error noEntry
  | some (.file _), some (.directory _) => .error isDirectory
  | some entry, _ => return { tree with root := Directory.put entry new (Directory.remove old tree.root) }

def erase (tree : FileTree) (path : String) : Except FileError FileTree := do
  let place ← tree.locate path
  match Directory.find? place tree.root with
  | some (.file _) => return { tree with root := Directory.remove place tree.root }
  | some (.directory _) => .error isDirectory
  | none => .error noEntry

/-- What is below the working directory. -/
def listing (tree : FileTree) : List (String × Option String) :=
  match Directory.find? tree.working tree.root with
  | some (.directory entries) => Entry.listingAll "" entries
  | _ => []

/-- Carries out a change, or leaves the files as they are. -/
def attempt (change : FileTree → Except FileError FileTree) : StateM FileTree (Except FileError Unit) :=
  fun tree =>
    match change tree with
    | .ok changed => (.ok (), changed)
    | .error problem => (.error problem, tree)

def access : FileAccess (StateM FileTree) where
  read path := fun tree => (tree.read path, tree)
  write path text := attempt fun tree => tree.write path text
  -- Directories that were made stay even if one further on cannot be made.
  makeDirectories path := fun tree =>
    ((tree.makeDirectories path).map fun _ => (), makeSome (Path.parts path) tree (tree.start path))
  rename source target := attempt fun tree => tree.rename source target

end FileTree
end ScriptedTask
