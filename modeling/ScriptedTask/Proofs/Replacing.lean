import ScriptedTask.Proofs.FileTree
import ScriptedTask.Proofs.Running

/-! Documents that are replaced. What a document is replaced by is written to a file beside it,
which then takes its place. If that can be done once it can be done again, and no other file is
touched. -/

namespace ScriptedTask

open Directory FileTree

namespace FileTree

/-- The tree after a file was written in one place and moved to another. -/
def movedIn (beside home : List String) (text : String) (tree : FileTree) : FileTree :=
  { tree with root := put (.file text) home (remove beside (put (.file text) beside tree.root)) }

section Attempts

variable {change : FileTree → Except FileError FileTree} {tree later : FileTree}

theorem attempt_run {answer : Except FileError Unit} (ran : (attempt change).run tree = (answer, later)) :
    (∃ problem, answer = .error problem ∧ later = tree) ∨ answer = .ok () ∧ change tree = .ok later := by
  rw [StateT.run, attempt] at ran
  split at ran
  next changed done =>
    cases ran
    exact .inr ⟨rfl, done⟩
  next problem _ =>
    cases ran
    exact .inl ⟨problem, rfl, rfl⟩

theorem attempt_ok : (attempt change).run tree = (.ok (), later) ↔ change tree = .ok later := by
  constructor
  · intro attempted
    rcases attempt_run attempted with ⟨_, impossible, -⟩ | ⟨-, made⟩
    · cases impossible
    · exact made
  · intro made
    rw [StateT.run, attempt, made]

end Attempts

theorem conduct_write_ok {path text : String} {tree later : FileTree} {done : Unit} :
    conduct (ExceptT.mk (FileTree.access.write path text)) tree = (.ok done, later) ↔ tree.write path text = .ok later :=
  attempt_ok

theorem conduct_rename_ok {source target : String} {tree later : FileTree} {done : Unit} :
    conduct (ExceptT.mk (FileTree.access.rename source target)) tree = (.ok done, later) ↔
      tree.rename source target = .ok later :=
  attempt_ok

end FileTree

/-- A document in the working directory. -/
structure IsBare (path : String) : Prop where
  name : IsName path
  temporary : IsName (Path.withExtension path "json.tmp")
  here : Path.parent? path = some ""

namespace DocumentStore

variable {α : Type} {store : DocumentStore α} {tree ready later : FileTree} {beside home : List String} {text : String}

/-- The directories above the document have been made. -/
def Prepares (store : DocumentStore α) (tree ready : FileTree) : Prop :=
  (store.prepare FileTree.access).run tree = (.ok (), ready)

/-- The document was replaced by a text. -/
def Replaces (store : DocumentStore α) (text : String) (tree later : FileTree) : Prop :=
  (store.replace FileTree.access text).run tree = (.ok (), later)

/-- Nothing stands in the way of replacing the document. -/
def Replaceable (store : DocumentStore α) (tree : FileTree) : Prop := ∀ text, ∃ later, store.Replaces text tree later

theorem prepares_iff (store : DocumentStore α) : ∃ make, (∀ tree ready, store.Prepares tree ready ↔ make tree = .ok ready) ∧
    ∀ {tree ready}, make tree = .ok ready → Made tree make ready := by
  have nothing : ∀ {tree ready}, (.ok tree : Except FileError FileTree) = .ok ready → Made tree .ok ready := by
    rintro tree _ ⟨⟩
    exact ⟨Keeps.refl tree, fun _ _ found => found, fun _ _ => rfl⟩
  have none : ∀ tree ready : FileTree, (pure (.ok ()) : StateM FileTree (Except FileError Unit)).run tree = (.ok (), ready) ↔
      (.ok tree : Except FileError FileTree) = .ok ready :=
    fun _ _ => ⟨fun same => congrArg (Except.ok ∘ Prod.snd) same, fun same => by cases same; rfl⟩
  unfold Prepares prepare
  split
  next directory _ =>
    split
    · exact ⟨.ok, none, nothing⟩
    · exact ⟨fun tree => tree.makeDirectories directory, fun _ _ => access_makeDirectories_ok, makeDirectories_ok⟩
  · exact ⟨.ok, none, nothing⟩

theorem Prepares.keeps (prepared : store.Prepares tree ready) : Keeps tree ready := by
  obtain ⟨make, same, making⟩ := store.prepares_iff
  rw [same] at prepared
  exact (making prepared).kept

theorem Prepares.files (prepared : store.Prepares tree ready) {place : List String}
    (found : find? place tree.root = some (.file text)) : find? place ready.root = some (.file text) := by
  obtain ⟨make, same, making⟩ := store.prepares_iff
  rw [same] at prepared
  exact (making prepared).files place text found

theorem Prepares.again (prepared : store.Prepares tree ready) (kept : Keeps ready later) : store.Prepares later later := by
  obtain ⟨make, same, making⟩ := store.prepares_iff
  rw [same] at prepared ⊢
  exact (making prepared).again later kept

/-- Both the document and what is beside it can be written. -/
structure Clear (store : DocumentStore α) (ready : FileTree) (beside home : List String) : Prop where
  fromBeside : ready.locate store.temporaryPath = .ok beside
  besideFile : ¬Reaches beside ready.root
  fromHome : ready.locate store.path = .ok home
  homeFile : ¬Reaches home ready.root

namespace Clear

theorem written (clear : store.Clear ready beside home) (text : String) :
    SameDirectories ready { ready with root := put (.file text) beside ready.root } :=
  sameDirectories_put clear.besideFile text

theorem erased (clear : store.Clear ready beside home) (text : String) :
    SameDirectories ready { ready with root := remove beside (put (.file text) beside ready.root) } := by
  have written := clear.written text
  exact written.trans (sameDirectories_remove fun reached => clear.besideFile (written.reaches.mp reached))

theorem moved (clear : store.Clear ready beside home) (text : String) :
    SameDirectories ready (ready.movedIn beside home text) := by
  have erased := clear.erased text
  exact erased.trans (sameDirectories_put (fun reached => clear.homeFile (erased.reaches.mp reached)) text)

/-- The way stays clear as long as the directories are the same. -/
theorem of_same (clear : store.Clear ready beside home) (same : SameDirectories ready later) :
    store.Clear later beside home where
  fromBeside := same.locate.mpr clear.fromBeside
  besideFile reached := clear.besideFile (same.reaches.mp reached)
  fromHome := same.locate.mpr clear.fromHome
  homeFile reached := clear.homeFile (same.reaches.mp reached)

theorem find?_beside (clear : store.Clear ready beside home) (text : String) :
    find? beside (put (.file text) beside ready.root) = some (.file text) :=
  find?_put_located (.file text) clear.fromBeside clear.besideFile fun _ reached => reached

theorem read (clear : store.Clear ready beside home) (text : String) :
    (ready.movedIn beside home text).read store.path = .ok text := by
  refine read_ok.mpr ⟨home, (clear.moved text).locate.mpr clear.fromHome, ?_⟩
  exact find?_put_located (.file text) clear.fromHome clear.homeFile fun _ => (clear.erased text).reaches.mpr

end Clear

/-- A document is replaced just if the directories above it can be made and then the way is clear. -/
theorem replaces_iff : store.Replaces text tree later ↔ ∃ ready beside home, store.Prepares tree ready ∧
    store.Clear ready beside home ∧ later = ready.movedIn beside home text := by
  have opened : store.Replaces text tree later ↔ ∃ ready between, store.Prepares tree ready ∧
      ready.write store.temporaryPath text = .ok between ∧ between.rename store.temporaryPath store.path = .ok later := by
    change conduct _ tree = _ ↔ _
    simp only [conduct_bind_ok_iff, conduct_write_ok, conduct_rename_ok]
    exact ⟨fun ⟨_, ready, prepared, _, between, wrote, renamed⟩ => ⟨ready, between, prepared, wrote, renamed⟩,
      fun ⟨ready, between, prepared, wrote, renamed⟩ => ⟨(), ready, prepared, (), between, wrote, renamed⟩⟩
  rw [opened]
  constructor
  · rintro ⟨ready, between, prepared, wrote, renamed⟩
    obtain ⟨beside, located, file, rfl⟩ := write_ok.mp wrote
    have same := sameDirectories_put file text
    have found := find?_put_located (.file text) located file fun _ reached => reached
    obtain ⟨home, target, free, rfl⟩ := (rename_ok (same.locate.mpr located) found).mp renamed
    refine ⟨ready, beside, home, prepared, ?_, rfl⟩
    exact ⟨located, file, same.locate.mp target, fun reached => free (same.reaches.mpr reached)⟩
  · rintro ⟨ready, beside, home, prepared, clear, rfl⟩
    have same := clear.written text
    refine ⟨ready, _, prepared, write_ok.mpr ⟨beside, clear.fromBeside, clear.besideFile, rfl⟩, ?_⟩
    refine (rename_ok (same.locate.mpr clear.fromBeside) (clear.find?_beside text)).mpr ⟨home, same.locate.mpr clear.fromHome, ?_, rfl⟩
    exact fun reached => clear.homeFile (same.reaches.mp reached)

theorem Replaces.read (replaced : store.Replaces text tree later) : later.read store.path = .ok text := by
  obtain ⟨ready, beside, home, -, clear, rfl⟩ := replaces_iff.mp replaced
  exact clear.read text

/-- What was replaced once can be replaced again. -/
theorem Replaces.replaceable (replaced : store.Replaces text tree later) : store.Replaceable later := by
  obtain ⟨ready, beside, home, prepared, clear, rfl⟩ := replaces_iff.mp replaced
  have moved := clear.moved text
  intro other
  exact ⟨_, replaces_iff.mpr ⟨_, beside, home, prepared.again moved.kept, clear.of_same moved, rfl⟩⟩

/-- Once the directories above the document are made, the file is neither the document nor beside it
under the name for what is about to take its place. -/
def Apart (store : DocumentStore α) (file : String) (tree : FileTree) : Prop :=
  ∀ ready place, store.Prepares tree ready → ready.locate file = .ok place →
    ready.locate store.path ≠ .ok place ∧ ready.locate store.temporaryPath ≠ .ok place

variable {file content : String}

/-- A file that is apart from the document stays as it was. -/
theorem Replaces.read_apart (replaced : store.Replaces text tree later) (apart : store.Apart file tree)
    (held : tree.read file = .ok content) : later.read file = .ok content := by
  obtain ⟨ready, beside, home, prepared, clear, rfl⟩ := replaces_iff.mp replaced
  obtain ⟨place, located, found⟩ := read_ok.mp held
  have located := prepared.keeps.locate located
  have found := prepared.files found
  obtain ⟨notHome, notBeside⟩ := apart ready place prepared located
  have away : ∀ other, other ≠ place → ¬Reaches other ready.root → ¬other <+: place :=
    fun other differ file front => (eq_or_reaches front found).elim differ file
  have awayBeside := away beside (fun same => notBeside (same ▸ clear.fromBeside)) clear.besideFile
  have awayHome := away home (fun same => notHome (same ▸ clear.fromHome)) clear.homeFile
  refine read_ok.mpr ⟨place, (clear.moved text).locate.mpr located, ?_⟩
  exact find?_changed (confined_put _)
    (find?_changed confined_remove (find?_changed (confined_put _) found awayBeside) awayBeside) awayHome

theorem Replaces.apart (replaced : store.Replaces text tree later) (apart : store.Apart file tree) :
    store.Apart file later := by
  obtain ⟨ready, beside, home, prepared, clear, rfl⟩ := replaces_iff.mp replaced
  have moved := clear.moved text
  intro again place preparedAgain located
  -- The directories above the document are there already, so nothing is made.
  obtain rfl : again = ready.movedIn beside home text :=
    congrArg Prod.snd (preparedAgain.symm.trans (prepared.again moved.kept))
  rw [moved.locate] at located
  rw [Ne, Ne, moved.locate, moved.locate]
  exact apart ready place prepared located

section Bare

variable (bare : IsBare store.path)

include bare

theorem prepares_bare (tree : FileTree) : store.Prepares tree tree := by
  rw [Prepares, prepare, bare.here]
  rfl

variable (flat : Flat tree)

include flat

theorem clear_flat : store.Clear tree [store.temporaryPath] [store.path] where
  fromBeside := flat.locate bare.temporary
  besideFile := flat.not_reaches _
  fromHome := flat.locate bare.name
  homeFile := flat.not_reaches _

theorem replace_flat (text : String) :
    ∃ later, store.Replaces text tree later ∧ Flat later :=
  ⟨_, replaces_iff.mpr ⟨tree, _, _, prepares_bare bare tree, clear_flat bare flat, rfl⟩,
    ((flat.insert store.temporaryPath text).erase store.temporaryPath).insert store.path text⟩

theorem replaceable_flat : store.Replaceable tree := by
  intro text
  obtain ⟨later, replaced, -⟩ := replace_flat bare flat text
  exact ⟨later, replaced⟩

/-- A file of another name is apart from the document. -/
theorem apart_flat (named : IsName file) (fromHome : file ≠ store.path) (fromBeside : file ≠ store.temporaryPath) :
    store.Apart file tree := by
  intro ready place prepared located
  obtain rfl : ready = tree := congrArg Prod.snd (prepared.symm.trans (prepares_bare bare tree))
  rw [flat.locate named] at located
  cases located
  have clear := clear_flat bare flat
  rw [clear.fromHome, clear.fromBeside]
  simpa using ⟨fromHome.symm, fromBeside.symm⟩

end Bare

end DocumentStore
end ScriptedTask
