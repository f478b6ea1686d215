import ScriptedTask.Proofs.Places
import ScriptedTask.Proofs.Replacing
import ScriptedTask.Storage.Variables

/-! Updates of documents on files that may fail at any step. Whichever step it is, the document is
left alone: all that may have changed are directories that were missing and the file beside the
document, which is a file of its own since there are no links. -/

namespace ScriptedTask

open Directory FileTree

/-- What goes wrong with the files, by the paths in use. -/
structure Faults where
  /-- The file cannot be read, or holds no text. -/
  reading : String → Option String
  /-- The file cannot be written, after a part of a text has been, or nothing. -/
  writing : String → Option (Option String × FileError)
  /-- Directories are made for the first parts of the path only. -/
  making : String → Option (Nat × FileError)
  moving : String → String → Option FileError

namespace Faults

/-- Nothing goes wrong but for what is in the way. -/
def none : Faults := ⟨fun _ => .none, fun _ => .none, fun _ => .none, fun _ _ => .none⟩

/-- What is seen of what a file holds. -/
def seen (faults : Faults) (path : String) (held : Except FileError String) : Except FileError String :=
  match faults.reading path with
  | some reason => .error (.other reason)
  | .none => held

def access (faults : Faults) : FileAccess (StateM FileTree) where
  read path := fun tree => (faults.seen path (tree.read path), tree)
  write path text :=
    match faults.writing path with
    | some (.none, problem) => pure (.error problem)
    | some (some part, problem) => (fun _ => .error problem) <$> FileTree.access.write path part
    | .none => FileTree.access.write path text
  makeDirectories path :=
    match faults.making path with
    | some (count, problem) => fun tree => (.error problem, makeSome ((Path.parts path).take count) tree (tree.start path))
    | .none => FileTree.access.makeDirectories path
  rename source target :=
    match faults.moving source target with
    | some problem => pure (.error problem)
    | .none => FileTree.access.rename source target

variable {faults : Faults} {tree later : FileTree} {path text source target : String} {answer : Except FileError Unit}

theorem write_run (wrote : (faults.access.write path text).run tree = (answer, later)) :
    (∃ problem, answer = .error problem ∧ (later = tree ∨ ∃ part, tree.write path part = .ok later)) ∨
      answer = .ok () ∧ tree.write path text = .ok later := by
  simp only [access] at wrote
  split at wrote
  next problem _ =>
    cases wrote
    exact .inl ⟨problem, rfl, .inl rfl⟩
  next part problem _ =>
    rcases ran : (FileTree.access.write path part).run tree with ⟨done, changed⟩
    rw [run_map_of _ ran] at wrote
    cases wrote
    rcases attempt_run ran with ⟨_, -, same⟩ | ⟨-, written⟩
    · exact .inl ⟨problem, rfl, .inl same⟩
    · exact .inl ⟨problem, rfl, .inr ⟨part, written⟩⟩
  · rcases attempt_run wrote with ⟨problem, failed, same⟩ | written
    · exact .inl ⟨problem, failed, .inl same⟩
    · exact .inr written

theorem rename_run (renamed : (faults.access.rename source target).run tree = (answer, later)) :
    (∃ problem, answer = .error problem ∧ later = tree) ∨ answer = .ok () ∧ tree.rename source target = .ok later := by
  simp only [access] at renamed
  split at renamed
  next problem _ =>
    cases renamed
    exact .inl ⟨problem, rfl, rfl⟩
  · exact attempt_run renamed

theorem make_run (made : (faults.access.makeDirectories path).run tree = (answer, later)) :
    (∃ count, later = makeSome ((Path.parts path).take count) tree (tree.start path)) ∧
      (answer = .ok () → (FileTree.access.makeDirectories path).run tree = (.ok (), later)) := by
  simp only [access] at made
  split at made
  next count problem _ =>
    cases made
    exact ⟨⟨count, rfl⟩, nofun⟩
  · refine ⟨⟨(Path.parts path).length, ?_⟩, ?_⟩
    · rw [List.take_length]
      exact (congrArg Prod.snd made).symm
    · rintro rfl
      exact made

end Faults

namespace DocumentStore

variable {α β : Type} {store : DocumentStore α} {faults : Faults} {tree ready later : FileTree} {text : String}
  {answer : Except FileError Unit}

/-- What the file at the path stands for; a missing one stands for the first document. -/
def Holds (store : DocumentStore α) (tree : FileTree) (document : α) : Prop :=
  (∃ text, tree.read store.path = .ok text ∧ store.codec.decode? text = some document) ∨
    ∃ reason, tree.read store.path = .error (.missing reason) ∧ document = store.codec.initial

/-- The path of the document does not step back out of a directory that is missing. -/
def Steady (store : DocumentStore α) (tree : FileTree) : Prop :=
  Onward tree (tree.start store.path) (Path.parts store.path)

/-- Of all files only the one beside the document may have changed, and directories may have been
made. The document reads as before, unless its path leads back out of one of them. -/
structure Spared (store : DocumentStore α) (tree later : FileTree) : Prop where
  places : ∀ place, later.site place = tree.site place ∨ tree.site place = .nothing ∧ later.site place = .directory ∨
    later.locate store.temporaryPath = .ok place ∧ later.locate store.path ≠ .ok place
  document : store.Steady tree → later.read store.path = tree.read store.path

def respond (store : DocumentStore α) : Except FileError String → Except DocumentError α
  | .ok text => store.decode text
  | .error (.missing _) => .ok store.codec.initial
  | .error (.other reason) => .error (.access store.path reason)

theorem read_run (store : DocumentStore α) (faults : Faults) (tree : FileTree) :
    (store.read faults.access).run tree = (store.respond (faults.seen store.path (tree.read store.path)), tree) := by
  change (store.read faults.access) tree = _
  unfold read
  change StateT.run (match faults.seen store.path (tree.read store.path) with
    | .ok text => pure (store.decode text)
    | .error (.missing _) => pure (.ok store.codec.initial)
    | .error (.other reason) => pure (.error (.access store.path reason))) tree = _
  unfold respond
  split <;> rfl

theorem respond_ok {document : α} (answered : store.respond (faults.seen store.path (tree.read store.path)) = .ok document) :
    store.Holds tree document := by
  rw [Faults.seen] at answered
  split at answered
  · cases answered
  unfold respond at answered
  split at answered
  next text held =>
    rw [decode] at answered
    split at answered
    next decoded =>
      cases answered
      exact .inl ⟨text, held, decoded⟩
    · cases answered
  next reason held =>
    cases answered
    exact .inr ⟨reason, held, rfl⟩
  · cases answered

theorem Spared.of_grown (grown : Grown tree later) (document : store.Steady tree → later.read store.path = tree.read store.path) :
    store.Spared tree later where
  places place := (grown.sites place).imp_right .inl
  document := document

theorem prepare_run (prepared : (store.prepare faults.access).run tree = (answer, ready)) :
    (Grown tree ready ∧ (store.Steady tree → ready.read store.path = tree.read store.path)) ∧
      (answer = .ok () → store.Prepares tree ready) := by
  unfold Prepares
  unfold prepare at prepared ⊢
  cases found : Path.parent? store.path with
  | none =>
    rw [found] at prepared
    cases prepared
    exact ⟨⟨Grown.refl tree, fun _ => rfl⟩, fun _ => rfl⟩
  | some directory =>
    rw [found] at prepared
    by_cases bare : directory.isEmpty = true
    · simp only [if_pos bare] at prepared ⊢
      cases prepared
      exact ⟨⟨Grown.refl tree, fun _ => rfl⟩, fun _ => rfl⟩
    · simp only [if_neg bare] at prepared ⊢
      obtain ⟨⟨count, rfl⟩, done⟩ := Faults.make_run prepared
      refine ⟨⟨grown_makeSome _ tree _, fun steady => ?_⟩, done⟩
      exact read_makeSome found (by simpa using bare) steady count

/-- The document is spared when something was written beside it. -/
theorem Spared.beside (grown : Grown tree ready) (document : store.Steady tree → ready.read store.path = tree.read store.path)
    (wrote : ready.write store.temporaryPath text = .ok later) : store.Spared tree later := by
  obtain ⟨beside, located, file, rfl⟩ := write_ok.mp wrote
  have compared := Path.beside_withExtension store.path
  have same := sameDirectories_put file text
  refine ⟨fun place => ?_, fun steady => (read_beside compared located file text).trans (document steady)⟩
  by_cases there : place = beside
  · subst there
    refine .inr (.inr ⟨same.locate.mpr located, ?_⟩)
    rw [Ne, same.locate]
    exact locate_beside compared located file
  · have same : Directory.site place (put (.file text) beside ready.root) = ready.site place :=
      (confined_put _).site_apart (put_file text) file there
    rw [FileTree.site, same]
    exact (grown.sites place).imp_right .inl

theorem replace_error {problem : FileError} (failed : (store.replace faults.access text).run tree = (.error problem, later)) :
    store.Spared tree later := by
  change conduct _ tree = _ at failed
  -- Making the directories, writing beside the document and moving it fail one after the other.
  rcases conduct_bind_cases failed with ⟨_, prepared, -⟩ | ⟨_, ready, prepared, failed⟩
  · obtain ⟨⟨grown, document⟩, -⟩ := prepare_run prepared
    exact .of_grown grown document
  obtain ⟨⟨grown, document⟩, -⟩ := prepare_run prepared
  rcases conduct_bind_cases failed with ⟨_, wrote, -⟩ | ⟨_, between, wrote, renamed⟩
  · rcases Faults.write_run wrote with ⟨_, -, rfl | ⟨part, written⟩⟩ | ⟨impossible, -⟩
    · exact .of_grown grown document
    · exact .beside grown document written
    · cases impossible
  · rcases Faults.write_run wrote with ⟨_, impossible, -⟩ | ⟨-, written⟩
    · cases impossible
    rcases Faults.rename_run renamed with ⟨_, -, rfl⟩ | ⟨impossible, -⟩
    · exact .beside grown document written
    · cases impossible

theorem replace_ok (replaced : (store.replace faults.access text).run tree = (.ok (), later)) :
    store.Replaces text tree later := by
  change conduct _ tree = _ at replaced ⊢
  obtain ⟨⟨⟩, ready, prepared, replaced⟩ := conduct_bind_ok_iff.mp replaced
  refine conduct_bind_ok_iff.mpr ⟨(), ready, (prepare_run prepared).2 rfl, ?_⟩
  obtain ⟨⟨⟩, between, wrote, renamed⟩ := conduct_bind_ok_iff.mp replaced
  rcases Faults.write_run wrote with ⟨_, impossible, -⟩ | ⟨-, written⟩
  · cases impossible
  rcases Faults.rename_run renamed with ⟨_, impossible, -⟩ | ⟨-, renamed⟩
  · cases impossible
  exact conduct_bind_ok_iff.mpr ⟨(), between, conduct_write_ok.mpr written, conduct_rename_ok.mpr renamed⟩

/-- Once the document is replaced there is nothing left beside it. -/
theorem Replaces.gone (replaced : store.Replaces text tree later) : later.read store.temporaryPath = .error noEntry := by
  obtain ⟨ready, beside, home, -, clear, rfl⟩ := replaces_iff.mp replaced
  have written := clear.written text
  have erased := clear.erased text
  have apart : beside ≠ home := by
    rintro rfl
    exact locate_beside (Path.beside_withExtension store.path) clear.fromBeside clear.besideFile clear.fromHome
  have filled : beside ≠ [] := by
    rintro rfl
    exact clear.besideFile reaches_nil
  have moved : Directory.site beside (ready.movedIn beside home text).root =
      Directory.site beside (remove beside (put (.file text) beside ready.root)) :=
    (confined_put _).site_apart (put_file text) (fun reached => clear.homeFile (erased.reaches.mp reached)) apart
  have removed := find?_remove filled (written.reaches.mpr (locate_above clear.fromBeside))
  have located := (clear.moved text).locate.mpr clear.fromBeside
  rw [FileTree.read, located]
  change FileTree.content _ beside = _
  rw [FileTree.content, site_nothing.mp (moved.trans (site_nothing.mpr removed))]

/-- Either the document cannot be read and nothing is done, or it is read, changed and replaced. -/
theorem update_cases {change : α → β × α} {result : Except DocumentError β}
    (ran : (store.update faults.access change).run tree = (result, later)) :
    (∃ problem, result = .error problem ∧ later = tree) ∨
      ∃ document answer, store.Holds tree document ∧
        (store.replace faults.access (store.codec.encode (change document).2).prettyText).run tree = (answer, later) ∧
        result = match answer with
          | .ok () => .ok (change document).1
          | .error problem => .error (.access store.path problem.reason) := by
  rw [update, run_bind_of _ (store.read_run faults tree)] at ran
  cases answered : store.respond (faults.seen store.path (tree.read store.path)) with
  | error problem =>
    rw [answered] at ran
    cases ran
    exact .inl ⟨problem, rfl, rfl⟩
  | ok document =>
    rw [answered] at ran
    obtain ⟨answer, middle, replaced, ended⟩ := run_bind_eq ran
    refine .inr ⟨document, answer, respond_ok answered, ?_⟩
    cases answer <;> cases ended <;> exact ⟨replaced, rfl⟩

/-- If a document cannot be read, an update says so and nothing is done. -/
theorem update_unread (faults : Faults) (change : α → β × α) {problem : DocumentError}
    (failed : (store.read faults.access).run tree = (.error problem, tree)) :
    (store.update faults.access change).run tree = (.error problem, tree) := by
  rw [update, run_bind_of _ failed]
  rfl

theorem update_error {change : α → β × α} {problem : DocumentError}
    (failed : (store.update faults.access change).run tree = (.error problem, later)) : store.Spared tree later := by
  rcases update_cases failed with ⟨_, -, rfl⟩ | ⟨document, answer, -, replaced, result⟩
  · exact .of_grown (Grown.refl _) fun _ => rfl
  · cases answer with
    | ok done => cases result
    | error _ => exact replace_error replaced

theorem update_ok {change : α → β × α} {found : β}
    (updated : (store.update faults.access change).run tree = (.ok found, later)) : ∃ document, store.Holds tree document ∧
      found = (change document).1 ∧ store.Replaces (store.codec.encode (change document).2).prettyText tree later := by
  rcases update_cases updated with ⟨_, impossible, -⟩ | ⟨document, answer, held, replaced, result⟩
  · cases impossible
  · cases answer with
    | ok done =>
      cases result
      exact ⟨document, held, rfl, replace_ok replaced⟩
    | error _ => cases result

/-- An update that fails, at whichever step, spares the document, and no later read tells that it was
tried. One that succeeds leaves exactly the changed document and nothing beside it. Reading changes
nothing. -/
theorem updates_replace_or_spare (store : DocumentStore α) (faults : Faults) (change : α → β × α) (tree : FileTree) :
    (∀ problem later, (store.update faults.access change).run tree = (.error problem, later) →
      store.Spared tree later ∧ (store.Steady tree → ∀ others : Faults,
        ((store.read others.access).run later).1 = ((store.read others.access).run tree).1)) ∧
    (∀ problem, (store.read faults.access).run tree = (.error problem, tree) →
      (store.update faults.access change).run tree = (.error problem, tree)) ∧
    (∀ found later, (store.update faults.access change).run tree = (.ok found, later) →
      ∃ document, store.Holds tree document ∧ found = (change document).1 ∧
        later.read store.path = .ok (store.codec.encode (change document).2).prettyText ∧
        later.read store.temporaryPath = .error noEntry) ∧
    ((store.read faults.access).run tree).2 = tree := by
  refine ⟨fun problem later failed => ?_, fun problem => update_unread faults change, fun found later updated => ?_, ?_⟩
  · have spared := update_error failed
    refine ⟨spared, fun steady others => ?_⟩
    rw [read_run, read_run, spared.document steady]
  · obtain ⟨document, held, same, replaced⟩ := update_ok updated
    exact ⟨document, held, same, replaced.read, replaced.gone⟩
  · rw [read_run]

section Ledger

def ledger : DocumentStore VariableFile.Document := VariableFile.store "data/ledger.json"

def shelf (text : String) : FileTree :=
  ⟨SortedMap.ofList [("data", .directory (SortedMap.ofList [("ledger.json", .file text)]))], []⟩

def stuck : Faults := { Faults.none with moving := fun _ _ => some (.other "Device or resource busy (os error 16)") }

def enroll (document : VariableFile.Document) : Nat × VariableFile.Document := (document.size, document.insert "i" SortedMap.empty)

theorem ledger_is_spared_or_replaced :
    (∃ problem later, (ledger.update stuck.access enroll).run (shelf "\x7b\x7d") = (.error problem, later) ∧
      later.read ledger.path = .ok "\x7b\x7d") ∧
    (∃ problem, (ledger.update stuck.access enroll).run (shelf "[1,") = (.error problem, shelf "[1,")) ∧
    ∃ found later, (ledger.update Faults.none.access enroll).run (shelf "\x7b\x7d") = (.ok found, later) ∧
      later.read ledger.temporaryPath = .error noEntry := by
  refine ⟨?_, ?_, ?_⟩
  · have fails : ((ledger.update stuck.access enroll).run (shelf "\x7b\x7d")).1.isOk = false := by decide +kernel
    rcases ran : (ledger.update stuck.access enroll).run (shelf "\x7b\x7d") with ⟨problem | found, later⟩
    · obtain ⟨spared, -⟩ := (ledger.updates_replace_or_spare stuck enroll (shelf "\x7b\x7d")).1 problem later ran
      exact ⟨problem, later, rfl, (spared.document (.ahead (by decide +kernel))).trans rfl⟩
    · rw [ran] at fails
      cases fails
  · exact ⟨_, (ledger.updates_replace_or_spare stuck enroll (shelf "[1,")).2.1 _ rfl⟩
  · have succeeds : ((ledger.update Faults.none.access enroll).run (shelf "\x7b\x7d")).1.isOk = true := by decide +kernel
    rcases ran : (ledger.update Faults.none.access enroll).run (shelf "\x7b\x7d") with ⟨problem | found, later⟩
    · rw [ran] at succeeds
      cases succeeds
    · obtain ⟨_, -, -, -, gone⟩ := (ledger.updates_replace_or_spare Faults.none enroll (shelf "\x7b\x7d")).2.2.1 found later ran
      exact ⟨found, later, rfl, gone⟩

end Ledger

section Roundabout

def roundabout : DocumentStore VariableFile.Document := VariableFile.store "sub/../store.json"

/-- There is a document, but not the directory that the path leads through, and a directory is in the
way of what is written beside it. -/
def hidden : FileTree :=
  ⟨SortedMap.ofList [("store.json", .file "\x7b\"i\": \x7b\x7d\x7d"), ("store.json.tmp", .directory SortedMap.empty)], []⟩

/-- The failed update has made the directory, and from then on the document is found. -/
theorem failed_update_reveals_a_document : ∃ problem later,
    (roundabout.update FileTree.access enroll).run hidden = (.error problem, later) ∧
    hidden.read roundabout.path = .error noEntry ∧ later.read roundabout.path = .ok "\x7b\"i\": \x7b\x7d\x7d" ∧
    ((roundabout.read FileTree.access).run hidden).1.map Ascending.keys = .ok [] ∧
    ((roundabout.read FileTree.access).run later).1.map Ascending.keys = .ok ["i"] := by
  refine ⟨.access roundabout.path isDirectory.reason, _, rfl, ?_⟩
  decide +kernel

end Roundabout

end DocumentStore
end ScriptedTask
