import ScriptedTask.Proofs.FileTree
import ScriptedTask.Proofs.Paths

/-! What paths find after something was made or written in other places. Directories that are made
along a path hold nothing yet, so a path that goes on to a name finds nothing where it found nothing
before, unless it steps back out of one of them. -/

namespace ScriptedTask.FileTree

open Directory ScriptedTask.Path

variable {tree later : FileTree} {place next beside home : List String} {part path : String}

def content (tree : FileTree) (place : List String) : Except FileError String :=
  match Directory.find? place tree.root with
  | some (.file text) => .ok text
  | some (.directory _) => .error isDirectory
  | none => .error noEntry

/-- What is read where the parts lead to from a place. -/
def readFrom (tree : FileTree) (place : List String) (parts : List String) : Except FileError String := do
  tree.content (← parts.foldlM tree.step place)

section Reading

theorem read_eq (path : String) : tree.read path =
    if path.isEmpty then .error noEntry else tree.readFrom (tree.start path) (Path.parts path) := by
  rw [read, locate]
  split
  · rfl
  · rfl

theorem readFrom_cons (stepped : tree.step place part = .ok next) (rest : List String) :
    tree.readFrom place (part :: rest) = tree.readFrom next rest := by
  rw [readFrom, List.foldlM_cons, stepped]
  rfl

theorem step_idle (reached : Reaches place tree.root) (idle : Idle part) : tree.step place part = .ok place := by
  rw [step, enter_ok.mpr reached]
  simp only [bind, Except.bind]
  exact if_pos idle

theorem step_proper (reached : Reaches place tree.root) (proper : Proper part) : tree.step place part = .ok (place ++ [part]) := by
  rw [step, enter_ok.mpr reached]
  simp only [bind, Except.bind]
  exact (if_neg proper.1).trans (if_neg proper.2)

/-- A step that leads to no name ends in a directory. -/
theorem step_improper (improper : ¬Proper part) (stepped : tree.step place part = .ok next) : Reaches next tree.root := by
  rw [step, bind_ok] at stepped
  obtain ⟨_, entered, taken⟩ := stepped
  have reached := enter_ok.mp entered
  split at taken
  · cases taken
    exact reached
  next named =>
    split at taken
    · cases taken
      exact reached.dropLast
    next forth => exact absurd ⟨named, forth⟩ improper

theorem readFrom_nothing (nothing : tree.site place = .nothing) (parts : List String) :
    tree.readFrom place parts = .error noEntry := by
  have missing := site_nothing.mp nothing
  cases parts with
  | nil =>
    change tree.content place = _
    rw [content, missing]
  | cons part rest =>
    rw [readFrom, List.foldlM_cons, step, enter, missing]
    rfl

/-- Idle parts find the same as long as the place holds the same. -/
theorem readFrom_idle (same : later.site place = tree.site place) {trailing : List String}
    (idle : ∀ part ∈ trailing, Idle part) : later.readFrom place trailing = tree.readFrom place trailing := by
  cases here : tree.site place with
  | nothing => rw [readFrom_nothing here, readFrom_nothing (same.trans here)]
  | file text =>
    have before := site_file.mp here
    have after := site_file.mp (same.trans here)
    cases trailing with
    | nil =>
      change later.content place = tree.content place
      rw [content, content, before, after]
    | cons part rest =>
      rw [readFrom, readFrom, List.foldlM_cons, List.foldlM_cons, step, step, enter, enter, before, after]
      rfl
  | directory =>
    have before := site_directory.mp here
    have after := site_directory.mp (same.trans here)
    induction trailing with
    | nil =>
      obtain ⟨entries, before⟩ := before
      obtain ⟨others, after⟩ := after
      change later.content place = tree.content place
      rw [content, content, before, after]
    | cons part rest ih =>
      obtain ⟨first, others⟩ := List.forall_mem_cons.mp idle
      rw [readFrom_cons (step_idle before first), readFrom_cons (step_idle after first), ih others]

end Reading

/-- The parts lead through directories that are there, until none of them steps back any more or a
file is in the way. -/
inductive Onward (tree : FileTree) : List String → List String → Prop
  | ahead {place parts : List String} (forth : ".." ∉ parts) : Onward tree place parts
  | barred {place parts : List String} {text : String} (file : tree.site place = .file text) : Onward tree place parts
  | through {place next rest : List String} {part : String} (stepped : tree.step place part = .ok next)
      (onward : Onward tree next rest) : Onward tree place (part :: rest)

section Making

variable {parts rest : List String}

theorem Onward.tail (onward : Onward tree place (part :: rest)) (stepped : tree.step place part = .ok next) :
    Onward tree next rest := by
  cases onward with
  | ahead forth => exact .ahead fun back => forth (List.mem_cons_of_mem part back)
  | barred file => cases file.symm.trans (site_directory.mpr (step_ok stepped).1)
  | through taken onward =>
    rw [stepped] at taken
    cases taken
    exact onward

theorem Onward.grown (onward : Onward tree place parts) (grown : Grown tree later) : Onward later place parts := by
  induction onward with
  | ahead forth => exact .ahead forth
  | @barred place parts text file =>
    rcases grown.sites place with same | ⟨nothing, -⟩
    · exact .barred (same.trans file)
    · cases nothing.symm.trans file
  | through stepped _ ih => exact .through (grown.keeps.step stepped) ih

theorem Onward.forth (onward : Onward tree place parts) (nothing : tree.site place = .nothing) : ".." ∉ parts := by
  cases onward with
  | ahead forth => exact forth
  | barred file => cases nothing.symm.trans file
  | through stepped _ => cases nothing.symm.trans (site_directory.mpr (step_ok stepped).1)

/-- In an empty directory a name leads to nothing. -/
theorem readFrom_empty (reached : Reaches place tree.root) (empty : ∀ name, tree.site (place ++ [name]) = .nothing)
    (forth : ".." ∉ parts) (leads : ∃ part ∈ parts, ¬Idle part) : tree.readFrom place parts = .error noEntry := by
  induction parts with
  | nil => simp at leads
  | cons part rest ih =>
    obtain ⟨first, others⟩ := not_or.mp (List.mem_cons.not.mp forth)
    by_cases idle : Idle part
    · rw [readFrom_cons (step_idle reached idle)]
      obtain ⟨name, member, named⟩ := leads
      rcases List.mem_cons.mp member with rfl | later
      · exact absurd idle named
      · exact ih others ⟨name, later, named⟩
    · rw [readFrom_cons (step_proper reached ⟨idle, Ne.symm first⟩)]
      exact readFrom_nothing (empty part) rest

theorem readFrom_makeDirectory (above : Reaches next.dropLast tree.root) (onward : Onward tree next parts)
    (leads : ∃ part ∈ parts, ¬Idle part) : (tree.makeDirectory next).readFrom next parts = tree.readFrom next parts := by
  by_cases nothing : tree.site next = .nothing
  · rw [readFrom_nothing nothing]
    refine readFrom_empty ⟨_, find?_made above nothing⟩ (fun name => ?_) (onward.forth nothing) leads
    exact site_made above nothing name []
  · rw [makeDirectory_something nothing]

/-- Directories may be made along the first parts of a way that leads further. -/
theorem readFrom_makeSome {made : List String} (onward : Onward tree place (made ++ rest))
    (leads : ∃ part ∈ rest, ¬Idle part) :
    (makeSome made tree place).readFrom place (made ++ rest) = tree.readFrom place (made ++ rest) := by
  induction made generalizing tree place with
  | nil => rfl
  | cons part more ih =>
    rw [List.cons_append] at onward ⊢
    rw [makeSome]
    split
    next next stepped =>
      have onward := onward.tail stepped
      have first := grown_makeDirectory (step_ok stepped).2
      have others := grown_makeSome more (tree.makeDirectory next) next
      obtain ⟨name, member, named⟩ := leads
      -- The rest is made from a tree that has the first directory already.
      calc (makeSome more (tree.makeDirectory next) next).readFrom place (part :: (more ++ rest))
          = (makeSome more (tree.makeDirectory next) next).readFrom next (more ++ rest) :=
            readFrom_cons ((first.trans others).keeps.step stepped) _
        _ = (tree.makeDirectory next).readFrom next (more ++ rest) := ih (onward.grown first)
        _ = tree.readFrom next (more ++ rest) :=
            readFrom_makeDirectory (step_ok stepped).2 onward ⟨name, List.mem_append_right more member, named⟩
        _ = tree.readFrom place (part :: (more ++ rest)) := (readFrom_cons stepped _).symm
    · rfl

theorem makeSome_idle (reached : Reaches place tree.root) (idle : ∀ part ∈ parts, Idle part) :
    makeSome parts tree place = tree := by
  induction parts with
  | nil => rfl
  | cons part rest ih =>
    obtain ⟨first, others⟩ := List.forall_mem_cons.mp idle
    rw [makeSome, step_idle reached first]
    simp only [makeDirectory_reached reached]
    exact ih others

/-- Making some of the directories above a path does not change what is read there. -/
theorem read_makeSome {directory : String} (found : parent? path = some directory) (named : directory ≠ "")
    (onward : Onward tree (tree.start path) (Path.parts path)) (count : Nat) :
    (makeSome ((Path.parts directory).take count) tree (tree.start directory)).read path = tree.read path := by
  rcases parent?_spec found named with rfl | ⟨absolute, rest, whole, name, member, leads⟩
  · have idle : ∀ part ∈ (Path.parts "/").take count, Idle part := by
      intro part member
      obtain rfl : part = "" := List.eq_of_mem_replicate (List.mem_of_mem_take member : part ∈ List.replicate 2 "")
      exact .inl rfl
    have top : Reaches [] tree.root := reaches_nil
    exact congrArg (read · path) (makeSome_idle top idle)
  · have start : tree.start directory = tree.start path := by rw [FileTree.start, FileTree.start, absolute]
    rw [← List.take_append_drop count (Path.parts directory), List.append_assoc] at whole
    have grown := grown_makeSome ((Path.parts directory).take count) tree (tree.start path)
    rw [whole] at onward
    rw [start, read_eq, read_eq, start_eq grown.working, whole]
    rw [readFrom_makeSome onward ⟨name, List.mem_append_right _ member, leads⟩]

end Making

section Beside

variable {other : String}

theorem locate_eq (filled : path ≠ "") : tree.locate path = (Path.parts path).foldlM tree.step (tree.start path) :=
  if_neg (by simpa using filled)

theorem steps_idle {trailing : List String} (idle : ∀ part ∈ trailing, Idle part)
    (stepped : trailing.foldlM tree.step place = .ok next) : next = place := by
  induction trailing with
  | nil =>
    cases stepped
    rfl
  | cons part rest ih =>
    obtain ⟨first, others⟩ := List.forall_mem_cons.mp idle
    rw [List.foldlM_cons, bind_ok] at stepped
    obtain ⟨middle, taken, stepped⟩ := stepped
    rw [step_idle (step_ok taken).1 first] at taken
    cases taken
    exact ih others stepped

/-- If the path with another ending leads to a place for a file, then the path itself leads to
another place, however the files change. -/
theorem exists_home (compared : Beside path other) (located : tree.locate other = .ok beside) (file : ¬Reaches beside tree.root) :
    ∃ (home trailing : List String), home ≠ beside ∧ (∀ part ∈ trailing, Idle part) ∧
      ∀ later, Keeps tree later → later.locate path = trailing.foldlM later.step home := by
  have filled : other ≠ "" := by
    rintro rfl
    cases located
  rw [locate_eq filled] at located
  cases compared with
  | improper there improper =>
    -- A path that ends in no name leads to a directory, where nothing is written.
    rw [there, List.foldlM_append, bind_ok] at located
    obtain ⟨above, -, last⟩ := located
    rw [List.foldlM_cons, bind_ok] at last
    obtain ⟨_, stepped, ⟨⟩⟩ := last
    exact absurd (step_improper improper stepped) file
  | @renamed init trailing name renamed here idle there absolute named proper differ =>
    rw [there, List.foldlM_append, bind_ok] at located
    obtain ⟨above, walked, last⟩ := located
    rw [List.foldlM_cons, bind_ok] at last
    obtain ⟨_, stepped, ⟨⟩⟩ := last
    have reached := (step_ok stepped).1
    rw [step_proper reached proper] at stepped
    cases stepped
    refine ⟨above ++ [name], trailing, ?_, idle, ?_⟩
    · intro same
      exact differ (List.singleton_inj.mp (List.append_cancel_left same)).symm
    · intro later kept
      have filled : path ≠ "" := by
        rintro rfl
        have member : name ∈ Path.parts "" := by
          rw [here]
          exact List.mem_append_right init List.mem_cons_self
        exact named.1 (.inl (List.mem_singleton.mp member))
      have start : later.start path = tree.start other := by rw [start_eq kept.working, FileTree.start, FileTree.start, absolute]
      rw [locate_eq filled, here, List.foldlM_append, start, kept.steps walked]
      change (name :: trailing).foldlM later.step above = _
      rw [List.foldlM_cons, step_proper (kept.directories above reached) named]
      rfl

theorem locate_beside (compared : Beside path other) (located : tree.locate other = .ok beside)
    (file : ¬Reaches beside tree.root) : tree.locate path ≠ .ok beside := by
  obtain ⟨home, trailing, apart, idle, leads⟩ := exists_home compared located file
  rw [leads tree (Keeps.refl tree)]
  exact fun stepped => apart (steps_idle idle stepped).symm

/-- A file that is written beside a path does not change what is read there. -/
theorem read_beside (compared : Beside path other) (located : tree.locate other = .ok beside)
    (file : ¬Reaches beside tree.root) (text : String) :
    ({ tree with root := put (.file text) beside tree.root } : FileTree).read path = tree.read path := by
  obtain ⟨home, trailing, apart, idle, leads⟩ := exists_home compared located file
  have reads : ∀ later, Keeps tree later → later.read path = later.readFrom home trailing := by
    intro later kept
    change later.locate path >>= later.content = _
    rw [leads later kept]
    rfl
  have same : FileTree.site { tree with root := put (.file text) beside tree.root } home = tree.site home :=
    (confined_put _).site_apart (put_file text) file apart
  rw [reads _ (sameDirectories_put file text).kept, readFrom_idle same idle, reads tree (Keeps.refl tree)]

end Beside

end ScriptedTask.FileTree
