import Mathlib.Data.List.TakeWhile
import ScriptedTask.Storage.Path

/-! The parts of paths. What is above a path is made of its first parts, and a path with another
ending differs from it in one part, the name. -/

namespace ScriptedTask.Path

def pieces (text : List Char) : List String := (text.splitOn '/').map String.ofList

/-- A part that leads nowhere else. -/
def Idle (part : String) : Prop := part = "" ∨ part = "."

/-- A part that leads into something. -/
def Proper (part : String) : Prop := ¬Idle part ∧ part ≠ ".."

/-- Slashes and single dots, read from the end of a path. -/
inductive Trail : List Char → Prop
  | nil : Trail []
  | slash {rest : List Char} : Trail rest → Trail ('/' :: rest)
  | dot {rest : List Char} : Trail rest → Trail ('.' :: '/' :: rest)

section Pieces

variable {front rest name tail : List Char}

theorem pieces_slash (front rest : List Char) : pieces (front ++ '/' :: rest) = pieces front ++ pieces rest := by
  rw [pieces, List.splitOn, List.splitOnP_append_cons front rest (by decide), List.map_append]
  rfl

theorem pieces_solid (solid : '/' ∉ name) : pieces name = [String.ofList name] := by
  have one : name.splitOn '/' = [name] := List.splitOnP_eq_singleton fun c member =>
    beq_false_of_ne fun same => solid (same ▸ member)
  rw [pieces, one]
  rfl

theorem pieces_trail (front : List Char) (trail : Trail tail) :
    ∃ trailing, pieces (front ++ tail.reverse) = pieces front ++ trailing ∧ ∀ part ∈ trailing, Idle part := by
  induction trail with
  | nil => exact ⟨[], by simp, by simp⟩
  | @slash rest _ ih =>
    obtain ⟨trailing, split, idle⟩ := ih
    refine ⟨trailing ++ [""], ?_, ?_⟩
    · rw [List.reverse_cons, ← List.append_assoc, pieces_slash, split, List.append_assoc]
      rfl
    · intro part member
      rcases List.mem_append.mp member with earlier | last
      · exact idle part earlier
      · exact .inl (List.mem_singleton.mp last)
  | @dot rest _ ih =>
    obtain ⟨trailing, split, idle⟩ := ih
    refine ⟨trailing ++ ["."], ?_, ?_⟩
    · rw [List.reverse_cons, List.reverse_cons, List.append_assoc, ← List.append_assoc front]
      rw [List.append_assoc, List.singleton_append, ← List.append_assoc, pieces_slash, split, List.append_assoc]
      rfl
    · intro part member
      rcases List.mem_append.mp member with earlier | last
      · exact idle part earlier
      · exact .inr (List.mem_singleton.mp last)

/-- A name that follows a slash, or nothing, is a piece of its own. -/
theorem pieces_above (before : front = [] ∨ ∃ more, front = '/' :: more) :
    ∃ init, ∀ name, '/' ∉ name → pieces (front.reverse ++ name) = init ++ [String.ofList name] := by
  rcases before with rfl | ⟨more, rfl⟩
  · exact ⟨[], fun name solid => pieces_solid solid⟩
  · refine ⟨pieces more.reverse, fun name solid => ?_⟩
    rw [List.reverse_cons, List.append_assoc, List.singleton_append, pieces_slash, pieces_solid solid]

end Pieces

theorem Trail.tail {c : Char} {rest : List Char} (trail : Trail (c :: rest)) : Trail rest := by
  cases trail with
  | slash trail => exact trail
  | dot trail => exact .slash trail

theorem Trail.drop {tail : List Char} (trail : Trail tail) (count : Nat) : Trail (tail.drop count) := by
  induction count generalizing tail with
  | zero => exact trail
  | succ count ih =>
    cases tail with
    | nil => exact .nil
    | cons c rest => exact ih trail.tail

/-- A text that neither starts with a slash nor with a dot before a slash. -/
def Stops (text : List Char) : Prop := ∀ rest, text ≠ '/' :: rest ∧ text ≠ '.' :: '/' :: rest

theorem dropEnd_spec (text : List Char) : ∃ tail, Trail tail ∧ text = tail ++ dropEnd text ∧ Stops (dropEnd text) := by
  fun_induction dropEnd text with
  | case1 rest ih =>
    obtain ⟨tail, trail, whole, stops⟩ := ih
    exact ⟨'/' :: tail, .slash trail, congrArg (List.cons '/') whole, stops⟩
  | case2 rest ih =>
    obtain ⟨tail, trail, whole, stops⟩ := ih
    exact ⟨'.' :: '/' :: tail, .dot trail, congrArg (fun text => '.' :: '/' :: text) whole, stops⟩
  | case3 text slash dot => exact ⟨[], .nil, rfl, fun rest => ⟨slash rest, dot rest⟩⟩

theorem dropEnd_trail {tail text : List Char} (trail : Trail tail) (stops : Stops text) : dropEnd (tail ++ text) = text := by
  induction trail with
  | nil =>
    rw [List.nil_append]
    unfold dropEnd
    split
    next rest => exact absurd rfl (stops rest).1
    next rest => exact absurd rfl (stops rest).2
    · rfl
  | slash _ ih => rw [List.cons_append, dropEnd, ih]
  | dot _ ih => rw [List.cons_append, List.cons_append, dropEnd, ih]

/-- A path read from its end: what is dropped there, the last part, and what comes before it. -/
structure Ends (path : String) (tail front last : List Char) : Prop where
  trail : Trail tail
  whole : path.toList.reverse = tail ++ (last.reverse ++ front)
  solid : '/' ∉ last
  stops : Stops (last.reverse ++ front)
  before : front = [] ∨ ∃ more, front = '/' :: more

theorem exists_ends (path : String) : ∃ tail front last, Ends path tail front last := by
  obtain ⟨tail, trail, whole, stops⟩ := dropEnd_spec path.toList.reverse
  have parted : (splitLast path).2.reverse ++ (splitLast path).1 = dropEnd path.toList.reverse := by
    rw [splitLast, List.reverse_reverse]
    exact List.takeWhile_append_dropWhile
  refine ⟨tail, (splitLast path).1, (splitLast path).2, trail, by rw [parted, ← whole], ?_, by rwa [parted], ?_⟩
  · intro slash
    have kept := List.mem_takeWhile_imp (List.mem_reverse.mp slash)
    exact absurd rfl (of_decide_eq_true kept)
  · cases found : (splitLast path).1 with
    | nil => exact .inl rfl
    | cons c more =>
      have head := List.head?_dropWhile_not (· ≠ '/') (dropEnd path.toList.reverse)
      have starts : (dropEnd path.toList.reverse).dropWhile (· ≠ '/') = c :: more := found
      rw [starts] at head
      obtain rfl : c = '/' := by simpa using head
      exact .inr ⟨more, rfl⟩

theorem Ends.splitLast {path : String} {tail front last : List Char} (ends : Ends path tail front last) :
    Path.splitLast path = (front, last) := by
  have dropped : dropEnd path.toList.reverse = last.reverse ++ front := by
    rw [ends.whole, dropEnd_trail ends.trail ends.stops]
  have solid : ∀ c ∈ last.reverse, decide (c ≠ '/') = true := by
    intro c member
    exact decide_eq_true fun same => ends.solid (same ▸ List.mem_reverse.mp member)
  have parted : (last.reverse ++ front).dropWhile (· ≠ '/') = front ∧ (last.reverse ++ front).takeWhile (· ≠ '/') = last.reverse := by
    rw [List.dropWhile_append_of_pos solid, List.takeWhile_append_of_pos solid]
    rcases ends.before with rfl | ⟨more, rfl⟩
    · simp
    · simp
  rw [Path.splitLast, dropped]
  simp only [parted, List.reverse_reverse]

theorem Ends.toList {path : String} {tail front last : List Char} (ends : Ends path tail front last) :
    path.toList = front.reverse ++ last ++ tail.reverse := by
  have reversed := congrArg List.reverse ends.whole
  simpa only [List.reverse_reverse, List.reverse_append] using reversed

theorem Ends.parts {path : String} {tail front last : List Char} (ends : Ends path tail front last) :
    ∃ init trailing, (∀ name, '/' ∉ name → pieces (front.reverse ++ name) = init ++ [String.ofList name]) ∧
      Path.parts path = init ++ String.ofList last :: trailing ∧ ∀ part ∈ trailing, Idle part := by
  obtain ⟨trailing, split, idle⟩ := pieces_trail (front.reverse ++ last) ends.trail
  obtain ⟨init, above⟩ := pieces_above ends.before
  rw [← ends.toList, above last ends.solid, List.append_assoc, List.singleton_append] at split
  exact ⟨init, trailing, above, split, idle⟩

/-- A last part that follows a slash leads on. -/
theorem Ends.not_idle {path : String} {tail more last : List Char} (ends : Ends path tail ('/' :: more) last) :
    ¬Idle (String.ofList last) := by
  rintro (none | dot)
  · have empty : last = [] := by simpa using congrArg String.toList none
    subst empty
    exact (ends.stops more).1 rfl
  · have single : last = ['.'] := by simpa using congrArg String.toList dot
    subst single
    exact (ends.stops more).2 rfl

theorem Trail.last {tail : List Char} (trail : Trail tail) (filled : tail ≠ []) : ∃ init, tail = init ++ ['/'] := by
  induction trail with
  | nil => exact absurd rfl filled
  | @slash rest _ ih =>
    cases rest with
    | nil => exact ⟨[], rfl⟩
    | cons c more =>
      obtain ⟨init, same⟩ := ih (List.cons_ne_nil c more)
      exact ⟨'/' :: init, congrArg (List.cons '/') same⟩
  | @dot rest _ ih =>
    cases rest with
    | nil => exact ⟨['.'], rfl⟩
    | cons c more =>
      obtain ⟨init, same⟩ := ih (List.cons_ne_nil c more)
      exact ⟨'.' :: '/' :: init, congrArg (fun rest => '.' :: '/' :: rest) same⟩

theorem isAbsolute_append {path other : String} {first more : List Char} (filled : first ≠ [])
    (starts : other.toList = first) (whole : path.toList = first ++ more) : isAbsolute other = isAbsolute path := by
  cases first with
  | nil => exact absurd rfl filled
  | cons c rest => rw [isAbsolute, isAbsolute, starts, whole, List.cons_append, List.head?_cons, List.head?_cons]

/-- The directory above a path is the root or made of the first parts of the path, and what comes
after them leads on. -/
theorem parent?_spec {path directory : String} (found : parent? path = some directory) (named : directory ≠ "") :
    directory = "/" ∨ isAbsolute directory = isAbsolute path ∧
      ∃ rest, Path.parts path = Path.parts directory ++ rest ∧ ∃ part ∈ rest, ¬Idle part := by
  obtain ⟨tail, front, last, ends⟩ := exists_ends path
  rw [parent?, ends.splitLast] at found
  simp only at found
  split at found
  · cases found
  obtain ⟨above, trail, whole, stops⟩ := dropEnd_spec front
  cases rest : dropEnd front with
  | nil =>
    rw [rest] at found
    cases found
    split at named
    · exact .inl (if_pos ‹_›)
    · exact absurd rfl named
  | cons c others =>
    right
    rw [rest] at found whole stops
    cases found
    obtain ⟨more, rfl⟩ : ∃ more, front = '/' :: more := ends.before.resolve_left (by
      rintro rfl
      cases rest)
    -- Between the directory and the last part stand slashes, one next to the directory.
    have gap : above ≠ [] := by
      rintro rfl
      exact (stops more).1 whole.symm
    obtain ⟨init, rfl⟩ := trail.last gap
    have before : init = [] ∨ ∃ rest, init = '/' :: rest := by
      cases init with
      | nil => exact .inl rfl
      | cons head rest => exact .inr ⟨rest, by rw [← (List.cons.inj whole).1]⟩
    have text : path.toList = (c :: others).reverse ++ '/' :: (init.reverse ++ last ++ tail.reverse) := by
      rw [ends.toList, whole]
      simp
    obtain ⟨trailing, split, -⟩ := pieces_trail (init.reverse ++ last) ends.trail
    obtain ⟨between, above⟩ := pieces_above before
    refine ⟨isAbsolute_append (by simp) (String.toList_ofList ..) text, pieces (init.reverse ++ last ++ tail.reverse), ?_, ?_⟩
    · rw [Path.parts, text]
      change pieces _ = Path.parts _ ++ _
      rw [pieces_slash, Path.parts, String.toList_ofList]
      rfl
    · refine ⟨String.ofList last, ?_, ends.not_idle⟩
      rw [split, above last ends.solid]
      simp

theorem splitName_some {name stem ending : List Char} (split : splitName name = (stem, some ending)) :
    name = stem ++ '.' :: ending ∧ '.' ∉ ending ∧ stem ≠ [] := by
  rw [splitName] at split
  simp only at split
  split at split
  · cases split
  · cases split
  next c rest filled dropped =>
    cases split
    have head := List.head?_dropWhile_not (· ≠ '.') name.reverse
    rw [dropped] at head
    obtain rfl : c = '.' := by simpa using head
    refine ⟨?_, ?_, ?_⟩
    · have whole := List.takeWhile_append_dropWhile (p := (· ≠ '.')) (l := name.reverse)
      rw [dropped] at whole
      have reversed := congrArg List.reverse whole
      simpa using reversed.symm
    · intro dot
      have kept := List.mem_takeWhile_imp (List.mem_reverse.mp dot)
      exact absurd rfl (of_decide_eq_true kept)
    · intro none
      exact filled (List.reverse_eq_nil_iff.mp none)

theorem splitName_concat {stem ending : List Char} (filled : stem ≠ []) (last : '.' ∉ ending) :
    splitName (stem ++ '.' :: ending) = (stem, some ending) := by
  have stops : ∀ c ∈ ending.reverse, decide (c ≠ '.') = true :=
    fun c member => decide_eq_true fun same => last (same ▸ List.mem_reverse.mp member)
  have reversed : (stem ++ '.' :: ending).reverse = ending.reverse ++ '.' :: stem.reverse := by simp
  have parted : (ending.reverse ++ '.' :: stem.reverse).takeWhile (· ≠ '.') = ending.reverse ∧
      (ending.reverse ++ '.' :: stem.reverse).dropWhile (· ≠ '.') = '.' :: stem.reverse := by
    rw [List.takeWhile_append_of_pos stops, List.dropWhile_append_of_pos stops]
    simp
  rw [splitName]
  simp only [reversed, parted]
  split
  · contradiction
  next single => exact absurd (List.reverse_eq_nil_iff.mp (List.cons.inj single).2) filled
  next rest _ some =>
    rw [← (List.cons.inj some).2]
    simp

theorem splitName_none {name stem : List Char} (split : splitName name = (stem, none)) : stem = name := by
  rw [splitName] at split
  simp only at split
  split at split <;> cases split <;> rfl

theorem fileName?_eq {path : String} {front last : List Char} (split : splitLast path = (front, last)) :
    fileName? path = if last = [] ∨ last = ['.'] ∨ last = ['.', '.'] then none else some last := by
  rw [fileName?, split]

theorem proper_ofList {last : List Char} :
    Proper (String.ofList last) ↔ ¬(last = [] ∨ last = ['.'] ∨ last = ['.', '.']) := by
  have same : ∀ text : String, String.ofList last = text ↔ last = text.toList :=
    fun text => ⟨fun same => by rw [← same, String.toList_ofList], fun same => by rw [same, String.ofList_toList]⟩
  simp only [Proper, Idle, same, Ne, not_or, and_assoc]
  exact Iff.rfl

theorem stops_of_solid {stem ending front : List Char} (filled : stem ≠ []) (solidStem : '/' ∉ stem) (last : '.' ∉ ending)
    (solid : '/' ∉ ending) : Stops ((stem ++ '.' :: ending).reverse ++ front) := by
  have reversed : (stem ++ '.' :: ending).reverse ++ front = ending.reverse ++ '.' :: (stem.reverse ++ front) := by simp
  rw [reversed]
  intro rest
  cases starts : ending.reverse with
  | nil =>
    refine ⟨nofun, ?_⟩
    rw [List.nil_append]
    intro same
    cases below : stem.reverse with
    | nil => exact filled (List.reverse_eq_nil_iff.mp below)
    | cons c more =>
      rw [below] at same
      cases same
      exact solidStem (List.mem_reverse.mp (below ▸ List.mem_cons_self))
  | cons c more =>
    have member : c ∈ ending := List.mem_reverse.mp (starts ▸ List.mem_cons_self)
    constructor
    · rintro ⟨⟩
      exact solid member
    · intro same
      cases (List.cons.inj same).1
      exact last member

/-- When the ending of the name is cut off a path, something may be left of it or of what comes after
the name. -/
theorem Ends.cut {path : String} {tail front stem ending : List Char} (ends : Ends path tail front (stem ++ '.' :: ending))
    (last : '.' ∉ ending) (filled : stem ≠ []) : ∃ rest kept,
      Ends (String.ofList (path.toList.take (path.toList.length - ending.length))) rest front (stem ++ '.' :: kept) ∧
        '.' ∉ kept := by
  have solid := ends.solid
  simp only [List.mem_append, List.mem_cons, not_or] at solid
  have enough : ending.length ≤ path.toList.length := by
    rw [ends.toList]
    simp only [List.length_append, List.length_cons]
    omega
  have whole : path.toList.reverse = tail ++ (ending.reverse ++ '.' :: (stem.reverse ++ front)) := by
    rw [ends.whole]
    simp
  have cut : (path.toList.take (path.toList.length - ending.length)).reverse = path.toList.reverse.drop ending.length := by
    rw [List.reverse_take]
    congr 1
    omega
  by_cases short : ending.length ≤ tail.length
  · refine ⟨tail.drop ending.length, ending, ⟨ends.trail.drop _, ?_, ends.solid, ends.stops, ends.before⟩, last⟩
    rw [String.toList_ofList, cut, ends.whole, List.drop_append_of_le_length short]
  · let count := ending.length - tail.length
    let kept := (ending.reverse.drop count).reverse
    have inside : ∀ c ∈ kept, c ∈ ending :=
      fun c member => List.mem_reverse.mp (List.mem_of_mem_drop (List.mem_reverse.mp member))
    have solidKept : '/' ∉ stem ++ '.' :: kept := by
      simp only [List.mem_append, List.mem_cons, not_or]
      exact ⟨solid.1, solid.2.1, fun slash => solid.2.2 (inside _ slash)⟩
    have lastKept : '.' ∉ kept := fun dot => last (inside _ dot)
    refine ⟨[], kept, ⟨.nil, ?_, solidKept, ?_, ends.before⟩, lastKept⟩
    · have rest : (tail ++ (ending.reverse ++ '.' :: (stem.reverse ++ front))).drop ending.length =
          ending.reverse.drop count ++ '.' :: (stem.reverse ++ front) := by
        rw [List.drop_append, List.drop_of_length_le (by omega), List.nil_append,
          List.drop_append_of_le_length (by rw [List.length_reverse]; omega)]
      rw [String.toList_ofList, cut, whole, rest]
      simp [kept]
    · exact stops_of_solid filled solid.1 lastKept fun slash => solid.2.2 (inside _ slash)

/-- A row of parts whose first leads nowhere else, or back, ends in such a part. -/
theorem ends_improper (init : List String) {trailing : List String} {part : String} (improper : ¬Proper part)
    (idle : ∀ part ∈ trailing, Idle part) : ∃ front last, init ++ part :: trailing = front ++ [last] ∧ ¬Proper last := by
  rcases List.eq_nil_or_concat trailing with rfl | ⟨others, last, rfl⟩
  · exact ⟨init, part, rfl, improper⟩
  · refine ⟨init ++ part :: others, last, by simp, ?_⟩
    exact fun proper => proper.1 (idle last (by simp))

/-- How a path with another ending compares with the path. Either it ends in no name, or the two
differ in the name alone. -/
inductive Beside (path other : String) : Prop
  | improper {init : List String} {last : String} (there : Path.parts other = init ++ [last]) (improper : ¬Proper last)
  | renamed {init trailing : List String} {name renamed : String} (here : Path.parts path = init ++ name :: trailing)
      (idle : ∀ part ∈ trailing, Idle part) (there : Path.parts other = init ++ [renamed])
      (absolute : isAbsolute other = isAbsolute path) (named : Proper name) (proper : Proper renamed) (differ : renamed ≠ name)

theorem isAbsolute_solid {path : String} {name more : List Char} (whole : path.toList = name ++ more) (filled : name ≠ [])
    (solid : '/' ∉ name) : isAbsolute path = false := by
  cases name with
  | nil => exact absurd rfl filled
  | cons c rest =>
    rw [isAbsolute, whole, List.cons_append, List.head?_cons]
    exact decide_eq_false fun same => solid (Option.some.inj same ▸ List.mem_cons_self)

section Renaming

variable {path cut : String} {tail rest front last stem kept : List Char}

theorem setExtension_eq (path : List Char) (ending : String) : setExtension path ending =
    match fileName? (String.ofList path) with
    | some name => String.ofList ((splitLast (String.ofList path)).1.reverse ++ (splitName name).1) ++ "." ++ ending
    | none => String.ofList path := rfl

theorem beside_setExtension (ends : Ends path tail front last) (named : Proper (String.ofList last))
    (cutEnds : Ends cut rest front kept) (split : (splitName kept).1 = stem) (solid : '/' ∉ stem)
    (differ : stem ++ ".json.tmp".toList ≠ last) : Beside path (setExtension cut.toList "json.tmp") := by
  rw [setExtension_eq, String.ofList_toList, fileName?_eq cutEnds.splitLast]
  by_cases bad : kept = [] ∨ kept = ['.'] ∨ kept = ['.', '.']
  · rw [if_pos bad]
    obtain ⟨init, trailing, -, parts, idle⟩ := cutEnds.parts
    obtain ⟨front, last, same, improper⟩ := ends_improper init (fun proper => proper_ofList.mp proper bad) idle
    exact .improper (parts.trans same) improper
  · rw [if_neg bad]
    obtain ⟨init, trailing, above, parts, idle⟩ := ends.parts
    let renamed := stem ++ ".json.tmp".toList
    have text : (String.ofList (front.reverse ++ stem) ++ "." ++ "json.tmp").toList = front.reverse ++ renamed := by
      rw [String.toList_append, String.toList_append, String.toList_ofList, List.append_assoc, List.append_assoc]
      rfl
    have solidRenamed : '/' ∉ renamed := by
      rw [List.mem_append, not_or]
      exact ⟨solid, by decide⟩
    have long : renamed.length = stem.length + 9 := List.length_append
    have there : Path.parts (String.ofList (front.reverse ++ stem) ++ "." ++ "json.tmp") = init ++ [String.ofList renamed] := by
      rw [Path.parts, text]
      exact above renamed solidRenamed
    simp only [cutEnds.splitLast, split]
    refine .renamed parts idle there ?_ named ?_ ?_
    · have whole : path.toList = front.reverse ++ (last ++ tail.reverse) := by rw [ends.toList, List.append_assoc]
      by_cases bare : front.reverse = []
      · have some : renamed ≠ [] := fun empty => by simp [empty] at long
        have starts : (String.ofList (front.reverse ++ stem) ++ "." ++ "json.tmp").toList = renamed ++ [] := by
          rw [text, bare, List.nil_append, List.append_nil]
        rw [bare, List.nil_append] at whole
        rw [isAbsolute_solid whole (fun empty => proper_ofList.mp named (.inl empty)) ends.solid]
        exact isAbsolute_solid starts some solidRenamed
      · have first := isAbsolute_append bare (String.toList_ofList ..) whole
        have second := isAbsolute_append bare (String.toList_ofList ..) text
        rw [← first, second]
    · rw [proper_ofList]
      rintro (empty | empty | empty) <;> simp [empty] at long
    · intro same
      exact differ (String.ofList_injective same)

theorem beside_withExtension (path : String) : Beside path (withExtension path "json.tmp") := by
  obtain ⟨tail, front, last, ends⟩ := exists_ends path
  rw [withExtension, extension?, fileName?_eq ends.splitLast]
  by_cases bad : last = [] ∨ last = ['.'] ∨ last = ['.', '.']
  · rw [if_pos bad, Option.bind_none]
    obtain ⟨init, trailing, -, parts, idle⟩ := ends.parts
    obtain ⟨before, final, same, improper⟩ := ends_improper init (fun proper => proper_ofList.mp proper bad) idle
    have there : Path.parts (setExtension path.toList "json.tmp") = before ++ [final] := by
      rw [setExtension_eq, String.ofList_toList, fileName?_eq ends.splitLast, if_pos bad, parts, same]
    exact .improper there improper
  · rw [if_neg bad, Option.bind_some]
    have named := proper_ofList.mpr bad
    cases split : splitName last with
    | mk stem ending =>
      cases ending with
      | none =>
        obtain rfl := splitName_none split
        refine beside_setExtension ends named ends (by rw [split]) ends.solid ?_
        intro longer
        simpa using congrArg List.length longer
      | some ending =>
        obtain ⟨rfl, final, filled⟩ := splitName_some split
        have solid := ends.solid
        rw [List.mem_append, not_or] at solid
        obtain ⟨rest, kept, cutEnds, lastKept⟩ := ends.cut final filled
        have cut := beside_setExtension ends named cutEnds (by rw [splitName_concat filled lastKept]) solid.1 ?_
        · simpa using cut
        · intro same
          have dotted : '.' :: "json.tmp".toList = '.' :: ending := List.append_cancel_left same
          exact final ((List.cons.inj dotted).2 ▸ by decide)

end Renaming

end ScriptedTask.Path
