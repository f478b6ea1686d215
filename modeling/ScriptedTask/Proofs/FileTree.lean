import ScriptedTask.Proofs.Outcomes
import ScriptedTask.Storage.Document
import ScriptedTask.Storage.Tree

/-! What changes of a file tree keep. Writing, renaming and erasing touch files only, so every
directory stays where it is and paths lead where they led before. Making directories adds some where
there was nothing. -/

namespace ScriptedTask

namespace Directory

/-- The names lead to a directory. -/
def Reaches (place : List String) (root : Directory) : Prop := ∃ entries, find? place root = some (.directory entries)

variable {root : Directory} {place : List String} {name : String} {entry : Entry}

theorem reaches_nil : Reaches [] root := ⟨root, rfl⟩

theorem find?_directory {inner : Directory} : find? (name :: place) root = some (.directory inner) ↔
    ∃ outer, root.get? name = some (.directory outer) ∧ find? place outer = some (.directory inner) := by
  cases place with
  | nil =>
    constructor
    · exact fun found => ⟨inner, found, rfl⟩
    · rintro ⟨outer, held, ⟨⟩⟩
      exact held
  | cons second rest =>
    constructor
    · intro found
      simp only [find?] at found
      split at found
      next outer held => exact ⟨outer, held, found⟩
      · cases found
    · intro ⟨outer, held, found⟩
      simp only [find?, held]
      exact found

theorem reaches_cons : Reaches (name :: place) root ↔
    ∃ inner, root.get? name = some (.directory inner) ∧ Reaches place inner := by
  simp only [Reaches, find?_directory]
  exact ⟨fun ⟨entries, outer, held, found⟩ => ⟨outer, held, entries, found⟩,
    fun ⟨outer, held, entries, found⟩ => ⟨entries, outer, held, found⟩⟩

theorem find?_congr {other : Directory} (rest : List String) (same : root.get? name = other.get? name) :
    find? (name :: rest) root = find? (name :: rest) other := by
  cases rest with
  | nil => exact same
  | cons second rest => simp only [find?, same]

theorem Reaches.of_append {further : List String} (reached : Reaches (place ++ further) root) : Reaches place root := by
  induction place generalizing root with
  | nil => exact reaches_nil
  | cons name rest ih =>
    obtain ⟨inner, held, deeper⟩ := reaches_cons.mp reached
    exact reaches_cons.mpr ⟨inner, held, ih deeper⟩

theorem Reaches.dropLast (reached : Reaches place root) : Reaches place.dropLast root := by
  rcases List.eq_nil_or_concat place with rfl | ⟨front, last, rfl⟩
  · exact reached
  · rw [List.concat_eq_append, List.dropLast_concat]
    rw [List.concat_eq_append] at reached
    exact reached.of_append

theorem Reaches.not_prefix {other : List String} (reached : Reaches place root) (file : ¬Reaches other root) :
    ¬other <+: place := by
  rintro ⟨further, rfl⟩
  exact file reached.of_append

/-- What a longer place holds is found in the directory on the way. -/
theorem find?_append {more : List String} (filled : more ≠ []) : find? (place ++ more) root =
    match find? place root with
    | some (.directory inner) => find? more inner
    | _ => none := by
  induction place generalizing root with
  | nil => rfl
  | cons name rest ih =>
    cases rest with
    | nil =>
      obtain ⟨head, others, rfl⟩ := List.exists_cons_of_ne_nil filled
      rfl
    | cons second rest =>
      simp only [List.cons_append, find?] at ih ⊢
      split
      · exact ih
      · rfl

/-- What a place holds, as far as paths are concerned. -/
inductive Site where
  | nothing
  | directory
  | file (text : String)

def site (place : List String) (root : Directory) : Site :=
  match find? place root with
  | some (.file text) => .file text
  | some (.directory _) => .directory
  | none => .nothing

theorem site_file {text : String} : site place root = .file text ↔ find? place root = some (.file text) := by
  rw [site]
  split <;> simp_all

theorem site_directory : site place root = .directory ↔ Reaches place root := by
  rw [site, Reaches]
  split <;> simp_all

theorem site_nothing : site place root = .nothing ↔ find? place root = none := by
  rw [site]
  split <;> simp_all

theorem site_beyond {more : List String} (file : ¬Reaches place root) (filled : more ≠ []) :
    site (place ++ more) root = .nothing := by
  rw [site_nothing, find?_append filled]
  split
  next inner found => exact absurd ⟨inner, found⟩ file
  · rfl

/-- Whatever lies above a file is a directory. -/
theorem eq_or_reaches {other : List String} {text : String} (front : other <+: place)
    (found : find? place root = some (.file text)) : other = place ∨ Reaches other root := by
  obtain ⟨more, rfl⟩ := front
  by_cases filled : more = []
  · exact .inl (by rw [filled, List.append_nil])
  · refine .inr (Classical.byContradiction fun file => ?_)
    rw [site_nothing.mp (site_beyond file filled)] at found
    cases found

/-- A change is carried out in the directory that holds its place. -/
structure Confined (change : List String → Directory → Directory) : Prop where
  nowhere : ∀ root, change [] root = root
  here : ∀ name other root, other ≠ name → (change [name] root).get? other = root.get? other
  below : ∀ name second rest root, change (name :: second :: rest) root =
    match root.get? name with
    | some (.directory inner) => root.insert name (.directory (change (second :: rest) inner))
    | _ => root

theorem confined_put (entry : Entry) : Confined (put entry) where
  nowhere _ := rfl
  here name other root differ := by simp [put, Ascending.get?_insert, differ]
  below name second rest root := rfl

theorem confined_remove : Confined remove where
  nowhere _ := rfl
  here name other root differ := by simp [remove, Ascending.get?_erase, differ]
  below name second rest root := rfl

section Changes

variable {change : List String → Directory → Directory} (confined : Confined change)

include confined

theorem Confined.elsewhere {head : String} (differ : name ≠ head) (rest : List String) :
    (change (head :: rest) root).get? name = root.get? name := by
  cases rest with
  | nil => exact confined.here head name root differ
  | cons second rest =>
    rw [confined.below]
    split
    · rw [Ascending.get?_insert, if_neg differ]
    · rfl

/-- Nothing changes in a place that does not lie at or below the place of a change, except in what a
directory on the way to that place holds. -/
theorem Confined.site {other : List String} (away : ¬other <+: place) :
    Directory.site place (change other root) = Directory.site place root := by
  induction other generalizing place root with
  | nil => exact absurd List.nil_prefix away
  | cons head rest ih =>
    cases place with
    | nil => rfl
    | cons name deeper =>
      by_cases same : name = head
      · subst same
        have further : ¬rest <+: deeper := fun front => away (List.cons_prefix_cons.mpr ⟨rfl, front⟩)
        cases rest with
        | nil => exact absurd List.nil_prefix further
        | cons second rest =>
          rw [confined.below]
          split
          next inner held =>
            cases deeper with
            | nil => simp only [Directory.site, find?, held, Ascending.get?_insert, if_true]
            | cons next deeper => simpa only [Directory.site, find?, held, Ascending.get?_insert, if_true] using ih further
          · rfl
      · rw [Directory.site, Directory.site, find?_congr deeper (confined.elsewhere same rest)]

theorem Reaches.changed {other : List String} (reached : Reaches place root) (away : ¬other <+: place) :
    Reaches place (change other root) := by
  rwa [← site_directory, confined.site away, site_directory]

theorem find?_changed {text : String} {other : List String} (found : find? place root = some (.file text))
    (away : ¬other <+: place) : find? place (change other root) = some (.file text) := by
  rwa [← site_file, confined.site away, site_file]

/-- What a change leaves in its place. -/
theorem Confined.there {inner : Directory} (found : find? place root = some (.directory inner)) :
    find? (place ++ [name]) (change (place ++ [name]) root) = (change [name] inner).get? name := by
  induction place generalizing root with
  | nil =>
    cases found
    rfl
  | cons head rest ih =>
    obtain ⟨outer, held, below⟩ := find?_directory.mp found
    obtain ⟨second, further, split⟩ := List.exists_cons_of_ne_nil (List.append_ne_nil_of_right_ne_nil rest (List.cons_ne_nil name []))
    have deeper := ih below
    rw [split] at deeper
    simp only [List.cons_append, split, confined.below, held, find?, Ascending.get?_insert, if_true]
    exact deeper

/-- No change but the making of a directory makes one. -/
theorem Reaches.before (plain : ∀ name root entries, (change [name] root).get? name ≠ some (.directory entries))
    {other : List String} (reached : Reaches place (change other root)) : Reaches place root := by
  induction other generalizing place root with
  | nil => rwa [confined.nowhere] at reached
  | cons head rest ih =>
    cases place with
    | nil => exact reaches_nil
    | cons name deeper =>
      obtain ⟨inner, held, below⟩ := reaches_cons.mp reached
      by_cases same : name = head
      · subst same
        cases rest with
        | nil => exact absurd held (plain name root inner)
        | cons second rest =>
          rw [confined.below] at held
          split at held
          next outer there =>
            rw [Ascending.get?_insert, if_pos rfl] at held
            cases held
            exact reaches_cons.mpr ⟨outer, there, ih below⟩
          next missing => exact absurd held (missing inner)
      · rw [confined.elsewhere same rest] at held
        exact reaches_cons.mpr ⟨inner, held, below⟩

/-- If no directory goes or comes, a change is seen in its own place only. -/
theorem Confined.site_apart (plain : ∀ name root entries, (change [name] root).get? name ≠ some (.directory entries))
    {other : List String} (file : ¬Reaches other root) (apart : place ≠ other) :
    Directory.site place (change other root) = Directory.site place root := by
  by_cases below : other <+: place
  · obtain ⟨more, rfl⟩ := below
    have filled : more ≠ [] := by
      rintro rfl
      exact apart (List.append_nil other)
    have still : ¬Reaches other (change other root) := fun reached => file (reached.before confined plain)
    exact (site_beyond still filled).trans (site_beyond file filled).symm
  · exact confined.site below

end Changes

theorem find?_put (filled : place ≠ []) (above : Reaches place.dropLast root) :
    find? place (put entry place root) = some entry := by
  obtain ⟨inner, found⟩ := above
  rw [← List.dropLast_append_getLast filled, (confined_put entry).there found]
  simp [put, Ascending.get?_insert]

theorem find?_remove (filled : place ≠ []) (above : Reaches place.dropLast root) : find? place (remove place root) = none := by
  obtain ⟨inner, found⟩ := above
  rw [← List.dropLast_append_getLast filled, confined_remove.there found]
  simp [remove, Ascending.get?_erase]

theorem put_file (text name : String) (root entries : Directory) :
    (put (.file text) [name] root).get? name ≠ some (.directory entries) := by
  simp [put, Ascending.get?_insert]

theorem removed (name : String) (root entries : Directory) : (remove [name] root).get? name ≠ some (.directory entries) := by
  simp [remove, Ascending.get?_erase]

end Directory

namespace FileTree

open Directory

variable {tree : FileTree} {place next : List String}

theorem enter_ok : tree.enter place = .ok () ↔ Reaches place tree.root := by
  rw [enter]
  constructor
  · intro entered
    split at entered
    next entries found => exact ⟨entries, found⟩
    all_goals cases entered
  · intro ⟨entries, found⟩
    rw [found]

/-- A step is taken from a directory, and what it leads to lies in one. -/
theorem step_ok {part : String} (stepped : tree.step place part = .ok next) :
    Reaches place tree.root ∧ Reaches next.dropLast tree.root := by
  rw [step, bind_ok] at stepped
  obtain ⟨_, entered, taken⟩ := stepped
  have reached := enter_ok.mp entered
  refine ⟨reached, ?_⟩
  split at taken
  · cases taken
    exact reached.dropLast
  · split at taken
    · cases taken
      exact reached.dropLast.dropLast
    · cases taken
      rwa [List.dropLast_concat]

/-- Every directory of the one tree is in the other, and work is done in the same place. -/
structure Keeps (before after : FileTree) : Prop where
  working : after.working = before.working
  directories : ∀ place, Reaches place before.root → Reaches place after.root

variable {before after : FileTree} {path : String}

theorem start_eq (same : after.working = before.working) : after.start path = before.start path := by
  rw [start, start, same]

theorem Keeps.refl (tree : FileTree) : Keeps tree tree := ⟨rfl, fun _ reached => reached⟩

theorem Keeps.trans {between : FileTree} (first : Keeps before between) (second : Keeps between after) : Keeps before after :=
  ⟨second.working.trans first.working, fun place reached => second.directories place (first.directories place reached)⟩

theorem Keeps.step (kept : Keeps before after) {part : String} (stepped : before.step place part = .ok next) :
    after.step place part = .ok next := by
  have reached := (step_ok stepped).1
  rw [FileTree.step, enter_ok.mpr reached] at stepped
  rw [FileTree.step, enter_ok.mpr (kept.directories place reached)]
  exact stepped

theorem Keeps.steps (kept : Keeps before after) {parts : List String}
    (stepped : parts.foldlM before.step place = .ok next) : parts.foldlM after.step place = .ok next := by
  induction parts generalizing place with
  | nil => exact stepped
  | cons part rest ih =>
    rw [List.foldlM_cons, bind_ok] at stepped ⊢
    obtain ⟨middle, first, others⟩ := stepped
    exact ⟨middle, kept.step first, ih others⟩

theorem Keeps.locate (kept : Keeps before after) (located : before.locate path = .ok place) :
    after.locate path = .ok place := by
  rw [FileTree.locate] at located ⊢
  split at located
  · cases located
  next filled =>
    rw [if_neg filled, start_eq kept.working]
    exact kept.steps located

/-- The two trees have the same directories, so paths lead to the same places in them. -/
structure SameDirectories (before after : FileTree) : Prop where
  kept : Keeps before after
  back : Keeps after before

theorem SameDirectories.trans {between : FileTree} (first : SameDirectories before between)
    (second : SameDirectories between after) : SameDirectories before after :=
  ⟨first.kept.trans second.kept, second.back.trans first.back⟩

theorem SameDirectories.reaches (same : SameDirectories before after) : Reaches place after.root ↔ Reaches place before.root :=
  ⟨same.back.directories place, same.kept.directories place⟩

theorem SameDirectories.locate (same : SameDirectories before after) :
    after.locate path = .ok place ↔ before.locate path = .ok place :=
  ⟨same.back.locate, same.kept.locate⟩

theorem sameDirectories_put (file : ¬Reaches place tree.root) (text : String) :
    SameDirectories tree { tree with root := put (.file text) place tree.root } where
  kept := ⟨rfl, fun _ reached => reached.changed (confined_put _) (reached.not_prefix file)⟩
  back := ⟨rfl, fun _ reached => reached.before (confined_put _) (put_file text)⟩

theorem sameDirectories_remove (file : ¬Reaches place tree.root) :
    SameDirectories tree { tree with root := remove place tree.root } where
  kept := ⟨rfl, fun _ reached => reached.changed confined_remove (reached.not_prefix file)⟩
  back := ⟨rfl, fun _ reached => reached.before confined_remove removed⟩

theorem steps_above {parts : List String} (above : Reaches place.dropLast tree.root)
    (stepped : parts.foldlM tree.step place = .ok next) : Reaches next.dropLast tree.root := by
  induction parts generalizing place with
  | nil =>
    cases stepped
    exact above
  | cons part rest ih =>
    rw [List.foldlM_cons, bind_ok] at stepped
    obtain ⟨middle, first, others⟩ := stepped
    exact ih (step_ok first).2 others

/-- Where a path leads lies in a directory. -/
theorem locate_above (located : tree.locate path = .ok place) : Reaches place.dropLast tree.root := by
  rw [locate] at located
  split at located
  · cases located
  · cases parts : Path.parts path with
    | nil => exact absurd (List.map_eq_nil_iff.mp parts) (List.splitOn_ne_nil '/' path.toList)
    | cons part rest =>
      rw [parts, List.foldlM_cons, bind_ok] at located
      obtain ⟨middle, first, others⟩ := located
      exact steps_above (step_ok first).2 others

theorem find?_put_located (entry : Entry) {root : Directory} (located : tree.locate path = .ok place)
    (file : ¬Reaches place tree.root) (kept : ∀ other, Reaches other tree.root → Reaches other root) :
    find? place (put entry place root) = some entry := by
  apply find?_put
  · rintro rfl
    exact file reaches_nil
  · exact kept place.dropLast (locate_above located)

theorem read_ok {text : String} :
    tree.read path = .ok text ↔ ∃ place, tree.locate path = .ok place ∧ find? place tree.root = some (.file text) := by
  rw [read, bind_ok]
  constructor
  · intro ⟨place, located, held⟩
    split at held
    next stored found =>
      cases held
      exact ⟨place, located, found⟩
    all_goals cases held
  · intro ⟨place, located, found⟩
    refine ⟨place, located, ?_⟩
    rw [found]
    rfl

variable {text : String} {changed : FileTree}

theorem write_ok : tree.write path text = .ok changed ↔
    ∃ place, tree.locate path = .ok place ∧ ¬Reaches place tree.root ∧
      changed = { tree with root := put (.file text) place tree.root } := by
  rw [write, bind_ok]
  constructor
  · rintro ⟨place, located, put⟩
    refine ⟨place, located, ?_⟩
    split at put
    · cases put
    next file =>
      cases put
      exact ⟨fun ⟨entries, found⟩ => file entries found, rfl⟩
  · rintro ⟨place, located, file, rfl⟩
    refine ⟨place, located, ?_⟩
    split
    next entries found => exact absurd ⟨entries, found⟩ file
    · rfl

theorem rename_ok {source target : String} {old : List String} (fromOld : tree.locate source = .ok old)
    (found : find? old tree.root = some (.file text)) : tree.rename source target = .ok changed ↔
      ∃ new, tree.locate target = .ok new ∧ ¬Reaches new tree.root ∧
        changed = { tree with root := put (.file text) new (remove old tree.root) } := by
  rw [rename, bind_ok]
  constructor
  · rintro ⟨_, same, renamed⟩
    rw [fromOld] at same
    cases same
    obtain ⟨new, located, moved⟩ := bind_ok.mp renamed
    refine ⟨new, located, ?_⟩
    simp only [found] at moved
    split at moved
    · contradiction
    · cases moved
    next same free =>
      cases same
      cases moved
      exact ⟨fun ⟨entries, found⟩ => free text entries found rfl, rfl⟩
  · rintro ⟨new, located, file, rfl⟩
    refine ⟨old, fromOld, bind_ok.mpr ⟨new, located, ?_⟩⟩
    rw [found]
    split
    · contradiction
    next entries _ held => exact absurd ⟨entries, held⟩ file
    next same _ =>
      cases same
      rfl

def site (tree : FileTree) (place : List String) : Site := Directory.site place tree.root

/-- Only directories were added, where there was nothing. -/
structure Grown (tree later : FileTree) : Prop where
  working : later.working = tree.working
  sites : ∀ place, later.site place = tree.site place ∨ tree.site place = .nothing ∧ later.site place = .directory

section Making

theorem enter_map : (tree.enter place).map (fun () => tree) = .ok changed ↔ Reaches place tree.root ∧ changed = tree := by
  rw [← enter_ok]
  constructor
  · intro mapped
    obtain ⟨_, entered, rfl⟩ := map_ok mapped
    exact ⟨entered, rfl⟩
  · rintro ⟨entered, rfl⟩
    rw [entered]
    rfl

variable {later : FileTree}

theorem Grown.refl (tree : FileTree) : Grown tree tree := ⟨rfl, fun _ => .inl rfl⟩

theorem Grown.trans {between : FileTree} (first : Grown tree between) (second : Grown between later) : Grown tree later where
  working := second.working.trans first.working
  sites place := by
    rcases first.sites place with same | ⟨nothing, made⟩
    · rw [← same]
      exact second.sites place
    · rcases second.sites place with same | ⟨nothing, -⟩
      · exact .inr ⟨nothing, same.trans made⟩
      · rw [made] at nothing
        cases nothing

theorem Grown.keeps (grown : Grown tree later) : Keeps tree later where
  working := grown.working
  directories place reached := by
    rw [← site_directory] at reached ⊢
    rcases grown.sites place with same | ⟨nothing, -⟩
    · exact same.trans reached
    · rw [site, reached] at nothing
      cases nothing

theorem Grown.files (grown : Grown tree later) (found : find? place tree.root = some (.file text)) :
    find? place later.root = some (.file text) := by
  rw [← site_file] at found ⊢
  rcases grown.sites place with same | ⟨nothing, -⟩
  · exact same.trans found
  · cases nothing.symm.trans found

theorem makeDirectory_something (something : tree.site next ≠ .nothing) : tree.makeDirectory next = tree := by
  rw [makeDirectory]
  split
  next missing => exact absurd (site_nothing.mpr missing) something
  · rfl

theorem makeDirectory_reached (reached : Reaches place tree.root) : tree.makeDirectory place = tree := by
  refine makeDirectory_something fun nothing => ?_
  cases nothing.symm.trans (site_directory.mpr reached)

/-- A directory that was made is empty. -/
theorem find?_made (above : Reaches next.dropLast tree.root) (nothing : tree.site next = .nothing) :
    find? next (tree.makeDirectory next).root = some (.directory SortedMap.empty) := by
  have missing := site_nothing.mp nothing
  rw [makeDirectory, missing]
  refine find?_put ?_ above
  rintro rfl
  cases missing

theorem site_made (above : Reaches next.dropLast tree.root) (nothing : tree.site next = .nothing)
    (part : String) (rest : List String) : (tree.makeDirectory next).site (next ++ part :: rest) = .nothing := by
  refine site_nothing.mpr ?_
  rw [find?_append (List.cons_ne_nil part rest), find?_made above nothing]
  cases rest <;> rfl

theorem grown_makeDirectory (above : Reaches next.dropLast tree.root) : Grown tree (tree.makeDirectory next) := by
  by_cases something : tree.site next ≠ .nothing
  · rw [makeDirectory_something something]
    exact Grown.refl tree
  have nothing := Classical.not_not.mp something
  have missing := site_nothing.mp nothing
  refine ⟨by rw [makeDirectory, missing], fun place => ?_⟩
  by_cases below : next <+: place
  · obtain ⟨more, rfl⟩ := below
    -- Below a place that held nothing there was nothing, and the new directory is empty.
    cases more with
    | nil =>
      rw [List.append_nil]
      exact .inr ⟨nothing, site_directory.mpr ⟨_, find?_made above nothing⟩⟩
    | cons part rest =>
      have file : ¬Reaches next tree.root := by
        rw [← site_directory]
        intro directory
        cases nothing.symm.trans directory
      left
      rw [site_made above nothing part rest]
      exact (site_beyond file (List.cons_ne_nil part rest)).symm
  · left
    rw [makeDirectory, missing]
    exact (confined_put _).site below

theorem grown_makeSome (parts : List String) (tree : FileTree) (place : List String) : Grown tree (makeSome parts tree place) := by
  induction parts generalizing tree place with
  | nil => exact Grown.refl tree
  | cons part rest ih =>
    rw [makeSome]
    split
    next next stepped => exact (grown_makeDirectory (step_ok stepped).2).trans (ih _ next)
    · exact Grown.refl tree

theorem makeSome_of_makeParts {parts : List String} {tree made : FileTree} {place : List String}
    (ok : makeParts parts tree place = .ok made) : makeSome parts tree place = made := by
  induction parts generalizing tree place with
  | nil =>
    rw [makeParts, enter_map] at ok
    exact ok.2.symm
  | cons part rest ih =>
    rw [makeParts, bind_ok] at ok
    obtain ⟨next, stepped, others⟩ := ok
    rw [makeSome, stepped]
    exact ih others

/-- What making directories does. Making them once more, where they are already, does nothing. -/
structure Made (tree : FileTree) (make : FileTree → Except FileError FileTree) (made : FileTree) : Prop where
  kept : Keeps tree made
  files : ∀ place text, find? place tree.root = some (.file text) → find? place made.root = some (.file text)
  again : ∀ later, Keeps made later → make later = .ok later

theorem grown_makeParts {parts : List String} {made : FileTree} (ok : makeParts parts tree place = .ok made) : Grown tree made := by
  rw [← makeSome_of_makeParts ok]
  exact grown_makeSome parts tree place

theorem makeParts_reached {parts : List String} {made : FileTree} (ok : makeParts parts tree place = .ok made) :
    Reaches place tree.root := by
  cases parts with
  | nil =>
    rw [makeParts, enter_map] at ok
    exact ok.1
  | cons part rest =>
    rw [makeParts, bind_ok] at ok
    obtain ⟨next, stepped, -⟩ := ok
    exact (step_ok stepped).1

theorem makeParts_again {parts : List String} {made : FileTree} (ok : makeParts parts tree place = .ok made)
    (kept : Keeps made later) : makeParts parts later place = .ok later := by
  have whole := (grown_makeParts ok).keeps.trans kept
  induction parts generalizing tree place with
  | nil => exact enter_map.mpr ⟨whole.directories place (makeParts_reached ok), rfl⟩
  | cons part rest ih =>
    rw [makeParts, bind_ok] at ok
    obtain ⟨next, stepped, others⟩ := ok
    have further := (grown_makeParts others).keeps.trans kept
    have there : Reaches next later.root := further.directories next (makeParts_reached others)
    rw [makeParts, whole.step stepped]
    simp only [bind, Except.bind, makeDirectory_reached there]
    exact ih others further

theorem makeDirectories_ok {made : FileTree} (ok : tree.makeDirectories path = .ok made) :
    Made tree (fun tree => tree.makeDirectories path) made := by
  unfold makeDirectories at ok ⊢
  split at ok
  next empty =>
    cases ok
    exact ⟨Keeps.refl tree, fun _ _ found => found, fun later _ => if_pos empty⟩
  next filled =>
    have grown := grown_makeParts ok
    refine ⟨grown.keeps, fun _ _ found => grown.files found, ?_⟩
    intro later kept
    simp only [if_neg filled, start_eq (grown.keeps.trans kept).working]
    exact makeParts_again ok kept

end Making

theorem makeSome_empty (tree : FileTree) : makeSome (Path.parts "") tree (tree.start "") = tree := by
  change makeSome [""] tree tree.working = tree
  rw [makeSome, step]
  cases entered : tree.enter tree.working with
  | error problem => rfl
  | ok done => exact makeDirectory_reached (enter_ok.mp entered)

theorem makeSome_of_makeDirectories {made : FileTree} (ok : tree.makeDirectories path = .ok made) :
    makeSome (Path.parts path) tree (tree.start path) = made := by
  unfold makeDirectories at ok
  split at ok
  next empty =>
    cases ok
    rw [String.isEmpty_iff] at empty
    subst empty
    exact makeSome_empty tree
  · exact makeSome_of_makeParts ok

theorem access_makeDirectories_ok {made : FileTree} :
    (FileTree.access.makeDirectories path).run tree = (.ok (), made) ↔ tree.makeDirectories path = .ok made := by
  change ((tree.makeDirectories path).map fun _ => (), makeSome (Path.parts path) tree (tree.start path)) = _ ↔ _
  cases tried : tree.makeDirectories path with
  | error problem => simp [Except.map]
  | ok found => simp [Except.map, makeSome_of_makeDirectories tried]

/-- A path that is the name of something in the working directory. -/
structure IsName (name : String) : Prop where
  whole : Path.parts name = [name]
  relative : Path.isAbsolute name = false
  named : name ≠ "" ∧ name ≠ "." ∧ name ≠ ".."

/-- Work is done in the root, and there are only files. -/
structure Flat (tree : FileTree) : Prop where
  working : tree.working = []
  files : ∀ name entries, tree.root.get? name ≠ some (.directory entries)

variable {name : String}

theorem Flat.locate (flat : Flat tree) (plain : IsName name) : tree.locate name = .ok [name] := by
  have filled : ¬name.isEmpty = true := by simpa using plain.named.1
  rw [FileTree.locate, if_neg filled, plain.whole, start, plain.relative, flat.working]
  simp only [List.foldlM_cons, List.foldlM_nil, FileTree.step, plain.named, or_self, if_false]
  rfl

theorem Flat.insert (flat : Flat tree) (name text : String) : Flat { tree with root := tree.root.insert name (.file text) } where
  working := flat.working
  files other entries held := by
    rw [Ascending.get?_insert] at held
    split at held
    · cases held
    · exact flat.files other entries held

theorem Flat.not_reaches (flat : Flat tree) (name : String) : ¬Reaches [name] tree.root :=
  fun ⟨entries, found⟩ => flat.files name entries found

theorem Flat.erase (flat : Flat tree) (name : String) : Flat { tree with root := tree.root.erase name } where
  working := flat.working
  files other entries held := by
    rw [Ascending.get?_erase] at held
    split at held
    · cases held
    · exact flat.files other entries held

end FileTree
end ScriptedTask
