import ScriptedTask.Json.Part

/-! How readers take a text apart. Reading a value and passing over it look at the same openings,
and go on with the same items and members. -/

namespace ScriptedTask.Json

variable {α ν : Type}

/-- How a value begins, with the text that is to be read on. -/
inductive Opening where
  | word (value : Json) (rest : List Char)
  | string (rest : List Char)
  | array (rest : List Char)
  | object (rest : List Char)
  | number (text : List Char)

def opening (text : List Char) : Opening :=
  match skipBlanks text with
  | 'n' :: 'u' :: 'l' :: 'l' :: rest => .word .null rest
  | 't' :: 'r' :: 'u' :: 'e' :: rest => .word (.bool true) rest
  | 'f' :: 'a' :: 'l' :: 's' :: 'e' :: rest => .word (.bool false) rest
  | '"' :: rest => .string rest
  | '[' :: rest => .array rest
  | '\x7b' :: rest => .object rest
  | rest => .number rest

/-- The text after a closing bracket, if nothing else comes before it. -/
def closes? (closing : Char) (text : List Char) : Option (List Char) :=
  match skipBlanks text with
  | [] => none
  | c :: rest => if c = closing then some rest else none

/-- What comes after an opening bracket. -/
def itemsAfter (item : Reader α) : Reader (List α) := fun text =>
  match closes? ']' text with
  | some rest => .ok ([], rest)
  | none => items item (skipBlanks text).length [] (skipBlanks text)

/-- What comes after an opening brace. -/
def membersAfter (name : Reader ν) (item : Reader α) : Reader (List (ν × α)) := fun text =>
  match closes? '\x7d' text with
  | some rest => .ok ([], rest)
  | none => members name item (skipBlanks text).length [] (skipBlanks text)

section Brackets

variable {closing : Char} {text rest : List Char}

theorem closes?_some (closed : skipBlanks text = closing :: rest) : closes? closing text = some rest := by
  simp [closes?, closed]

theorem closes?_none (goesOn : ∀ rest, skipBlanks text ≠ closing :: rest) : closes? closing text = none := by
  unfold closes?
  split
  · rfl
  next c rest first =>
    rw [if_neg]
    rintro rfl
    exact goesOn rest first

theorem itemsAfter_closed (item : Reader α) (closed : skipBlanks text = ']' :: rest) :
    itemsAfter item text = .ok ([], rest) := by
  rw [itemsAfter, closes?_some closed]

theorem itemsAfter_open (item : Reader α) (goesOn : ∀ rest, skipBlanks text ≠ ']' :: rest) :
    itemsAfter item text = items item (skipBlanks text).length [] (skipBlanks text) := by
  rw [itemsAfter, closes?_none goesOn]

theorem membersAfter_closed (name : Reader ν) (item : Reader α) (closed : skipBlanks text = '\x7d' :: rest) :
    membersAfter name item text = .ok ([], rest) := by
  rw [membersAfter, closes?_some closed]

theorem membersAfter_open (name : Reader ν) (item : Reader α) (goesOn : ∀ rest, skipBlanks text ≠ '\x7d' :: rest) :
    membersAfter name item text = members name item (skipBlanks text).length [] (skipBlanks text) := by
  rw [membersAfter, closes?_none goesOn]

end Brackets

theorem value_eq (depth : Nat) (text : List Char) :
    value depth text =
      match opening text with
      | .word found rest => .ok (found, rest)
      | .string rest => (stringBody [] rest).map fun (content, rest) => (.string (String.ofList content), rest)
      | .array rest =>
        match depth with
        | 0 => .error ⟨.tooDeep, '[' :: rest⟩
        | inner + 1 => (itemsAfter (value inner) rest).map fun (read, rest) => (.array read, rest)
      | .object rest =>
        match depth with
        | 0 => .error ⟨.tooDeep, '\x7b' :: rest⟩
        | inner + 1 => (membersAfter memberName (value inner) rest).map fun (read, rest) =>
            (.object (SortedMap.ofList read), rest)
      | .number rest => number rest := by
  unfold opening
  rw [value]
  generalize skipBlanks text = start
  split
  case h_5 rest =>
    cases depth with
    | zero => rfl
    | succ inner =>
      simp only
      split
      next closed => rw [itemsAfter_closed _ closed]; rfl
      next goesOn => rw [itemsAfter_open _ goesOn]
  case h_6 rest =>
    cases depth with
    | zero => rfl
    | succ inner =>
      simp only
      split
      next closed => rw [membersAfter_closed _ _ closed]; rfl
      next goesOn => rw [membersAfter_open _ _ goesOn]
  all_goals simp_all

theorem skip_eq (fuel : Nat) (text : List Char) :
    skip (fuel + 1) text =
      match opening text with
      | .word _ rest => .ok ((), rest)
      | .string rest => skipString rest
      | .array rest => passed (itemsAfter (skip fuel) rest)
      | .object rest => passed (membersAfter skipName (skip fuel) rest)
      | .number rest => passed (lexeme rest) := by
  unfold opening
  rw [skip]
  generalize skipBlanks text = start
  split
  case h_5 rest =>
    simp only
    split
    next closed => rw [itemsAfter_closed _ closed]; rfl
    next goesOn => rw [itemsAfter_open _ goesOn]
  case h_6 rest =>
    simp only
    split
    next closed => rw [membersAfter_closed _ _ closed]; rfl
    next goesOn => rw [membersAfter_open _ _ goesOn]
  all_goals simp_all

end ScriptedTask.Json
