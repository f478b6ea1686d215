import ScriptedTask.Proofs.Json.Skipping

/-! Parts of texts that were written. A part is found whatever it holds; its value is found just
if it nests no deeper than the part allows. -/

namespace ScriptedTask.Json

variable {write : Nat → Json → List Char} {closing : Char} {before after : List Char} {texts : List (List Char)}

theorem length_lt_enclosedRest {text : List Char} (member : text ∈ texts) :
    text.length < (enclosedRest closing before after texts).length := by
  induction texts with
  | nil => cases member
  | cons first more ih =>
    simp only [enclosedRest, List.length_append, List.length_cons]
    rcases List.mem_cons.mp member with rfl | later
    · omega
    · have counted := ih later
      omega

theorem length_lt_enclosed {text : List Char} (member : text ∈ texts) :
    text.length < (enclosed closing before after texts).length := by
  cases texts with
  | nil => cases member
  | cons first more =>
    have counted := length_enclosedRest closing before after more
    simp only [enclosed, List.length_append]
    rcases List.mem_cons.mp member with rfl | later
    · omega
    · have longer : text.length < (enclosedRest closing before after more).length := length_lt_enclosedRest later
      omega

/-- A text is at least as long as its value is deep. -/
theorem depth_le_length (layout : Layout write) (value : Json) :
    ∀ level, value.depth ≤ (write level value).length := by
  induction value using Json.induct with
  | null => exact fun _ => Nat.zero_le _
  | bool _ => exact fun _ => Nat.zero_le _
  | integer _ _ => exact fun _ => Nat.zero_le _
  | float _ => exact fun _ => Nat.zero_le _
  | string _ => exact fun _ => Nat.zero_le _
  | array elements ih =>
    intro level
    obtain ⟨before, after, -, -, shape⟩ := layout.array level
    rw [shape, List.length_cons, depth_array_le]
    intro item member
    have longer : (write (level + 1) item).length <
        (enclosed ']' before after (elements.map (write (level + 1)))).length :=
      length_lt_enclosed (List.mem_map_of_mem member)
    exact Nat.le_trans (ih item member (level + 1)) (Nat.le_of_lt longer)
  | object entries ih =>
    intro level
    obtain ⟨before, after, gap, -, -, -, shape⟩ := layout.object level
    rw [shape, List.length_cons, depth_object_le]
    intro entry member
    let text := fun entry : String × Json => memberText gap entry.1 (write (level + 1) entry.2)
    have longer : (text entry).length < (enclosed '}' before after (entries.toList.map text)).length :=
      length_lt_enclosed (List.mem_map_of_mem member)
    have inside : (write (level + 1) entry.2).length ≤ (text entry).length := by
      simp only [text, memberText, List.length_append, List.length_cons]
      omega
    exact Nat.le_trans (ih entry member (level + 1)) (Nat.le_trans inside (Nat.le_of_lt longer))

variable {value : Json}

/-- What is read as a value is passed over as a part, blanks before it included. -/
theorem read_of_value {text : List Char} {depth : Nat} {found : Json} (reads : Reads (Json.value depth) text fun _ => found)
    (deep : depth ≤ text.length) (limit : Nat) : Reads (Part.read limit) text fun blanks => ⟨limit, blanks ++ text⟩ := by
  intro blanks rest blank ends
  have enough : depth < (blanks ++ text ++ rest).length + 1 := by
    simp only [List.length_append]
    omega
  have kept : (blanks ++ text ++ rest).take ((blanks ++ text ++ rest).length - rest.length) = blanks ++ text := by
    apply List.take_left'
    simp only [List.length_append]
    omega
  simp only [Part.read, skip_of_value enough (reads blanks rest blank ends), bind, Except.bind, kept]
  rfl

theorem part_reads (layout : Layout write) (limit level : Nat) (precise : value.Exact) :
    Reads (Part.read limit) (write level value) fun blanks => ⟨limit, blanks ++ write level value⟩ :=
  read_of_value (value_reads layout value value.depth level precise (Nat.le_refl _)) (depth_le_length layout value level) limit

theorem readWithin_ok {limit : Nat} {text : List Char} {found : Json} (read : readWithin limit text = .ok found) :
    ∃ rest, Json.value limit text = .ok (found, rest) := by
  simp only [readWithin, bind, Except.bind] at read
  split at read
  · cases read
  next result found =>
    split at read
    · cases read
      exact ⟨result.2, found⟩
    · cases read

namespace Part

theorem value?_ok {part : Part} (found : part.value? = some value) :
    ∃ rest, Json.value part.depth part.text = .ok (value, rest) := by
  rw [Part.value?] at found
  cases within : readWithin part.depth part.text with
  | error problem =>
    rw [within] at found
    cases found
  | ok read =>
    rw [within] at found
    cases found
    exact readWithin_ok within

theorem value?_depth {part : Part} (found : part.value? = some value) : value.depth ≤ part.depth := by
  obtain ⟨rest, read⟩ := value?_ok found
  exact value_depth read

theorem read_depth {limit : Nat} {text rest : List Char} {part : Part} (passed : read limit text = .ok (part, rest)) :
    part.depth = limit := by
  simp only [read, bind, Except.bind] at passed
  split at passed
  · cases passed
  · cases passed
    rfl

theorem members?_object {inner : Nat} {text rest : List Char} (opened : skipBlanks text = '{' :: rest) :
    (⟨inner + 1, text⟩ : Part).members? = (membersAfter memberName (read inner) rest).toOption.map Prod.fst := by
  unfold members?
  simp only [opened]
  split
  next closed => rw [membersAfter_closed _ _ closed]; rfl
  next goesOn => rw [membersAfter_open _ _ goesOn]

/-- The members of a part are one level further in. -/
theorem members?_depth {part : Part} {found : List (String × Part)} (members : part.members? = some found) :
    ∀ member ∈ found, member.2.depth + 1 = part.depth := by
  obtain ⟨depth, text⟩ := part
  cases depth with
  | zero => cases members
  | succ inner =>
    by_cases opened : ∃ rest, skipBlanks text = '{' :: rest
    · obtain ⟨rest, opened⟩ := opened
      rw [members?_object opened] at members
      cases listed : membersAfter memberName (read inner) rest with
      | error problem =>
        rw [listed] at members
        cases members
      | ok result =>
        rw [listed] at members
        cases members
        intro member present
        rw [membersAfter_forall read_depth listed member present]
    · unfold members? at members
      split at members
      next inner rest _ first => exact absurd ⟨rest, first⟩ opened
      · cases members

theorem items?_array {inner : Nat} {text rest : List Char} (opened : skipBlanks text = '[' :: rest) :
    (⟨inner + 1, text⟩ : Part).items? = (itemsAfter (read inner) rest).toOption.map Prod.fst := by
  unfold items?
  simp only [opened]
  split
  next closed => rw [itemsAfter_closed _ closed]; rfl
  next goesOn => rw [itemsAfter_open _ goesOn]

theorem items?_depth {part : Part} {found : List Part} (items : part.items? = some found) :
    ∀ item ∈ found, item.depth + 1 = part.depth := by
  obtain ⟨depth, text⟩ := part
  cases depth with
  | zero => cases items
  | succ inner =>
    by_cases opened : ∃ rest, skipBlanks text = '[' :: rest
    · obtain ⟨rest, opened⟩ := opened
      rw [items?_array opened] at items
      cases listed : itemsAfter (read inner) rest with
      | error problem =>
        rw [listed] at items
        cases items
      | ok result =>
        rw [listed] at items
        cases items
        intro item present
        rw [itemsAfter_forall read_depth listed item present]
    · unfold items? at items
      split at items
      next inner rest _ first => exact absurd ⟨rest, first⟩ opened
      · cases items

section Written

variable {blanks : List Char} (limit : Nat) (layout : Layout write) (blank : AllBlank blanks) (level : Nat)

include layout blank

theorem value?_written (precise : value.Exact) (shallow : value.depth ≤ limit) :
    (⟨limit, blanks ++ write level value⟩ : Part).value? = some value := by
  rw [Part.value?, readWithin_written layout blank limit level precise shallow]
  rfl

/-- The members of an object are found as parts, one level further in. -/
theorem members?_written {members : SortedMap Json} (precise : (Json.object members).Exact) :
    ∃ gap, AllBlank gap ∧ (⟨limit + 1, blanks ++ write level (.object members)⟩ : Part).members? =
      some (members.toList.map fun member => (member.1, ⟨limit, gap ++ write (level + 1) member.2⟩)) := by
  obtain ⟨before, after, gap, blankBefore, blankAfter, blankGap, shape⟩ := layout.object level
  rw [exact_object] at precise
  have reads : ∀ member ∈ members.toList, Reads (read limit) (write (level + 1) member.2) fun blanks =>
      ⟨limit, blanks ++ write (level + 1) member.2⟩ :=
    fun member present => part_reads layout limit (level + 1) (precise member present)
  have listed := membersAfter_enclosed (write (level + 1))
    (fun value blanks => (⟨limit, blanks ++ write (level + 1) value⟩ : Part)) [] blankBefore blankAfter blankGap reads
  have opened : skipBlanks (blanks ++ write level (.object members)) =
      '{' :: (enclosed '}' before after
        (members.toList.map fun member => memberText gap member.1 (write (level + 1) member.2)) ++ []) := by
    rw [shape, skipBlanks_append blank, List.append_nil]
    exact skipBlanks_solid (by decide) _
  refine ⟨gap, blankGap, ?_⟩
  rw [members?_object opened, listed]
  rfl

end Written

theorem ofText?_written (layout : Layout write) (level : Nat) (precise : value.Exact) :
    ofText? (String.ofList (write level value)) = some ⟨nestingLimit, write level value⟩ := by
  have passed := part_reads layout nestingLimit level precise [] [] allBlank_nil rfl
  rw [List.nil_append, List.append_nil] at passed
  rw [ofText?, String.toList_ofList, passed]
  rfl

theorem ofText?_depth {text : String} {part : Part} (found : ofText? text = some part) : part.depth = nestingLimit := by
  unfold ofText? at found
  split at found
  next passed =>
    split at found
    · cases found
      exact read_depth passed
    · cases found
  · cases found

end Part
end ScriptedTask.Json
