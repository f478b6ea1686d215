import ScriptedTask.Proofs.Replacing
import ScriptedTask.Proofs.VariableDocument

/-! Variables that were stored in a file and are loaded again. Writing has no limit and reading has
one: a value that nests too deep is accepted, and from then on the file cannot be read. -/

namespace ScriptedTask

open FileTree

namespace VariableFile

section Calls

variable {m : Type → Type} [Monad m]

end Calls

def mergeAll (document : Document) (calls : List (String × Values)) : Document :=
  calls.foldl (fun document call => merge document call.1 call.2) document

variable {document : Document} {changes : Values}

theorem variablesOf_merge (document : Document) (changed instanceId : String) (changes : Values) :
    variablesOf (merge document changed changes) instanceId =
      if instanceId = changed then (variablesOf document instanceId).overlay changes else variablesOf document instanceId := by
  rw [merge, variablesOf, Ascending.get?_insert]
  split
  next same => rw [same, Option.getD_some]
  · rfl

/-- The file at a path is read as a document, or there is none and the document is empty. -/
def Holds (path : String) (document : Document) (tree : FileTree) : Prop :=
  ((store path).read FileTree.access).run tree = (.ok document, tree)

def Unreadable (path : String) (tree : FileTree) : Prop :=
  ((store path).read FileTree.access).run tree = (.error (.serialization path DocumentStore.malformed), tree)

variable {path text instanceId : String} {tree later : FileTree}

theorem run_read (path : String) (tree : FileTree) : ((store path).read FileTree.access).run tree =
    (match tree.read path with
      | .ok text => (store path).decode text
      | .error (.missing _) => .ok SortedMap.empty
      | .error (.other reason) => .error (.access path reason), tree) := by
  rw [DocumentStore.read, StateT.run_bind]
  change StateT.run (match tree.read path with | .ok _ => _ | .error (.missing _) => _ | .error (.other _) => _) tree = _
  rcases tree.read path with (_ | _) | _ <;> rfl

theorem Holds.shallow (held : Holds path document tree) : Everywhere Shallow document := by
  rw [Holds, run_read, Prod.mk.injEq] at held
  have read := held.1
  split at read
  next text _ =>
    rw [DocumentStore.decode] at read
    split at read
    next decoded =>
      cases read
      exact shallow_of_decode? decoded
    · cases read
  · cases read
    exact everywhere_empty
  · cases read

theorem holds_written (written : tree.read path = .ok (encode document).prettyText) (precise : Everywhere Precise document)
    (shallow : Everywhere Shallow document) : Holds path document tree := by
  rw [Holds, run_read, written]
  simp only [DocumentStore.decode, store, codec, decode?_encode precise shallow]

/-- Loading leaves all files as they are, whatever it finds. -/
theorem load_unchanged (path instanceId : String) (tree : FileTree) :
    ∃ answer, ((repository FileTree.access path).load instanceId).run tree = (answer, tree) := by
  obtain ⟨found, read⟩ : ∃ found, ((store path).read FileTree.access).run tree = (found, tree) := ⟨_, run_read path tree⟩
  cases found <;> exact ⟨_, run_bind_of _ read⟩

theorem Holds.load (held : Holds path document tree) (instanceId : String) :
    ((repository FileTree.access path).load instanceId).run tree = (.ok (variablesOf document instanceId), tree) :=
  run_bind_of _ held

theorem Unreadable.load (unread : Unreadable path tree) (instanceId : String) :
    ((repository FileTree.access path).load instanceId).run tree =
      (.error (DocumentError.serialization path DocumentStore.malformed).failure, tree) :=
  run_bind_of _ unread

theorem Unreadable.store (unread : Unreadable path tree) (instanceId : String) (changes : Values) :
    ((repository FileTree.access path).store instanceId changes).run tree =
      (.error (DocumentError.serialization path DocumentStore.malformed).failure, tree) := by
  have updated : ((VariableFile.store path).update FileTree.access
      fun document => ((), merge document instanceId changes)).run tree =
        (.error (.serialization path DocumentStore.malformed), tree) :=
    run_bind_of _ unread
  exact run_bind_of _ updated

/-- Storing is replacing the document by the merged one. -/
theorem Holds.store_replaces (held : Holds path document tree)
    (replaced : (VariableFile.store path).Replaces (encode (merge document instanceId changes)).prettyText tree later) :
    ((repository FileTree.access path).store instanceId changes).run tree = (.ok (), later) := by
  have updated : ((VariableFile.store path).update FileTree.access
      fun document => ((), merge document instanceId changes)).run tree = (.ok (), later) := by
    rw [DocumentStore.update, run_bind_of _ held]
    exact run_bind_of _ replaced
  exact run_bind_of _ updated

def noFiles : FileTree := ⟨SortedMap.empty, []⟩

theorem flat_noFiles : Flat noFiles := ⟨rfl, fun _ _ missing => nomatch missing⟩

theorem holds_missing (missing : tree.read path = .error noEntry) : Holds path SortedMap.empty tree := by
  rw [Holds, run_read, missing]
  rfl

theorem holds_noFiles (bare : IsBare path) : Holds path SortedMap.empty noFiles := by
  refine holds_missing ?_
  rw [FileTree.read, flat_noFiles.locate bare.name]
  rfl

theorem isBare_variables : IsBare "variables.json" where
  name := ⟨by decide, by decide, by decide⟩
  temporary := ⟨by decide, by decide, by decide⟩
  here := by decide

def single (name : String) (value : Json) : Values := SortedMap.empty.insert name value

theorem eachValue_single {test : Json → Prop} {name : String} {value : Json} : EachValue test (single name value) ↔ test value := by
  simp [EachValue, single, Ascending.get?_insert]

def nested : Nat → Json
  | 0 => .null
  | levels + 1 => .array [nested levels]

def counts : List (String × Values) :=
  [("a", single "count" (.integer 1 (by decide))), ("b", single "count" (.integer 2 (by decide))),
    ("a", single "count" (.integer 3 (by decide)))]

end VariableFile
end ScriptedTask
