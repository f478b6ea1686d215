import ScriptedTask.Json.Printer
import ScriptedTask.Text.Blank

/-! What all texts of a value have in common. Layouts differ only in the blanks that they put
between brackets, commas and colons. -/

namespace ScriptedTask.Json

/-- What follows the first text between brackets: the other texts, each after a comma. -/
def enclosedRest (closing : Char) (before after : List Char) : List (List Char) → List Char
  | [] => after ++ [closing]
  | text :: rest => ',' :: before ++ text ++ enclosedRest closing before after rest

/-- Texts up to a closing bracket, with blanks before each text and before the bracket. -/
def enclosed (closing : Char) (before after : List Char) : List (List Char) → List Char
  | [] => [closing]
  | text :: rest => before ++ text ++ enclosedRest closing before after rest

/-- A member whose value has the given text. -/
def memberText (gap : List Char) (name : String) (text : List Char) : List Char :=
  quote name.toList ++ ':' :: (gap ++ text)

def AllBlank (text : List Char) : Prop := ∀ c ∈ text, Text.isPlainBlank c = true

theorem allBlank_nil : AllBlank [] := nofun

/-- A way to write values, by the level at which they stand. -/
structure Layout (write : Nat → Json → List Char) : Prop where
  null : ∀ level, write level .null = ['n', 'u', 'l', 'l']
  bool : ∀ level value,
    write level (.bool value) = if value then ['t', 'r', 'u', 'e'] else ['f', 'a', 'l', 's', 'e']
  integer : ∀ level value inRange, write level (.integer value inRange) = writeInt value
  float : ∀ level value, write level (.float value) = Decimal.writeFloat floatLayout value
  string : ∀ level text, write level (.string text) = quote text.toList
  array : ∀ level, ∃ before after, AllBlank before ∧ AllBlank after ∧
    ∀ items, write level (.array items) = '[' :: enclosed ']' before after (items.map (write (level + 1)))
  object : ∀ level, ∃ before after gap, AllBlank before ∧ AllBlank after ∧ AllBlank gap ∧
    ∀ members, write level (.object members) =
      '{' :: enclosed '}' before after
        (members.toList.map fun member => memberText gap member.1 (write (level + 1) member.2))

theorem compactItems_eq (items : List Json) : compactItems items = enclosedRest ']' [] [] (items.map compact) := by
  induction items with
  | nil => rfl
  | cons item rest ih => simp [compactItems, enclosedRest, ih]

theorem compactMembers_eq {lower : Option String} (members : Ascending Json lower) :
    compactMembers members =
      enclosedRest '}' [] [] (members.toList.map fun member => memberText [] member.1 member.2.compact) := by
  induction members with
  | nil => rfl
  | cons name above value rest ih => simp [compactMembers, enclosedRest, Ascending.toList, memberText, ih]

theorem layout_compact : Layout fun _ => compact where
  null _ := rfl
  bool _ value := by cases value <;> rfl
  integer _ _ _ := rfl
  float _ _ := rfl
  string _ _ := rfl
  array _ := by
    refine ⟨[], [], allBlank_nil, allBlank_nil, ?_⟩
    intro items
    cases items with
    | nil => rfl
    | cons item rest => simp [compact, enclosed, compactItems_eq]
  object _ := by
    refine ⟨[], [], [], allBlank_nil, allBlank_nil, allBlank_nil, ?_⟩
    intro members
    cases members with
    | nil => rfl
    | cons name above value rest => simp [compact, enclosed, compactMembers_eq, Ascending.toList, memberText]

theorem allBlank_newline (level : Nat) : AllBlank (newline level) := by
  intro c member
  rcases List.mem_cons.mp member with rfl | space
  · decide
  · rw [List.eq_of_mem_replicate space]
    decide

theorem indentedItems_eq (level : Nat) (items : List Json) :
    indentedItems level items =
      enclosedRest ']' (newline (level + 1)) (newline level) (items.map (indented (level + 1))) := by
  induction items with
  | nil => rfl
  | cons item rest ih => simp [indentedItems, enclosedRest, ih]

theorem indentedMembers_eq (level : Nat) {lower : Option String} (members : Ascending Json lower) :
    indentedMembers level members =
      enclosedRest '}' (newline (level + 1)) (newline level)
        (members.toList.map fun member => memberText [' '] member.1 (indented (level + 1) member.2)) := by
  induction members with
  | nil => rfl
  | cons name above value rest ih => simp [indentedMembers, enclosedRest, Ascending.toList, memberText, ih]

theorem layout_indented : Layout indented where
  null _ := rfl
  bool _ value := by cases value <;> rfl
  integer _ _ _ := rfl
  float _ _ := rfl
  string _ _ := rfl
  array level := by
    refine ⟨newline (level + 1), newline level, allBlank_newline _, allBlank_newline _, ?_⟩
    intro items
    cases items with
    | nil => rfl
    | cons item rest => simp [indented, enclosed, indentedItems_eq]
  object level := by
    refine ⟨newline (level + 1), newline level, [' '], allBlank_newline _, allBlank_newline _, ?_, ?_⟩
    · simp [AllBlank, Text.isPlainBlank]
    · intro members
      cases members with
      | nil => rfl
      | cons name above value rest => simp [indented, enclosed, indentedMembers_eq, Ascending.toList, memberText]

end ScriptedTask.Json
