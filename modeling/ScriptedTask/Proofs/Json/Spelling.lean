import ScriptedTask.Proofs.Json.Limits

/-! The texts of a value, whoever writes them: blanks may stand between the parts, and the members
of an object in any order. Each of them is read as the value, as long as it nests no deeper than
the reader goes and its floats are read as they were. -/

namespace ScriptedTask.Json

section Numbers

variable {text left rest : List Char}

theorem digits_append {found : List Char} (ends : endsNumber rest = true) (read : digits text = .ok (found, left)) :
    digits (text ++ rest) = .ok (found, left ++ rest) := by
  have stops : rest.takeWhile Char.isDigit = [] ∧ rest.dropWhile Char.isDigit = rest := by
    cases rest with
    | nil => exact ⟨rfl, rfl⟩
    | cons c more =>
      simp only [endsNumber, Bool.not_eq_true', Bool.or_eq_false_iff] at ends
      simp [ends]
  have taken : (text ++ rest).takeWhile Char.isDigit = text.takeWhile Char.isDigit := by
    rw [List.takeWhile_append, stops.1, List.append_nil]
    split
    next whole => exact ((List.takeWhile_prefix Char.isDigit).eq_of_length whole).symm
    · rfl
  have dropped : (text ++ rest).dropWhile Char.isDigit = text.dropWhile Char.isDigit ++ rest := by
    rw [List.dropWhile_append, stops.2]
    split
    next nothing => rw [List.isEmpty_iff.mp nothing, List.nil_append]
    · rfl
  unfold digits at read ⊢
  rw [taken, dropped]
  split at read
  · cases read
  next some =>
    cases read
    rfl

theorem fractionPart_append {found : Option (List Char)} (ends : endsNumber rest = true)
    (read : fractionPart text = .ok (found, left)) : fractionPart (text ++ rest) = .ok (found, left ++ rest) := by
  unfold fractionPart at read
  split at read
  next more =>
    obtain ⟨⟨fraction, later⟩, first, ⟨⟩⟩ := map_ok read
    simp only [List.cons_append, fractionPart, digits_append ends first, Except.map]
  next none =>
    cases read
    cases text with
    | nil => exact fractionPart_none ends
    | cons c more =>
      unfold fractionPart
      split
      next others same =>
        cases same
        exact absurd rfl (none more)
      · rfl

theorem exponentDigits_append {found : Option (Bool × List Char)} {negative : Bool} (ends : endsNumber rest = true)
    (read : exponentDigits negative text = .ok (found, left)) :
    exponentDigits negative (text ++ rest) = .ok (found, left ++ rest) := by
  obtain ⟨⟨exponent, later⟩, first, ⟨⟩⟩ := map_ok read
  simp only [exponentDigits, digits_append ends first, Except.map]

theorem digits_head {found : List Char} (read : digits text = .ok (found, left)) :
    ∃ c more, text = c :: more ∧ c.isDigit = true := by
  unfold digits at read
  split at read
  · cases read
  next some =>
    cases text with
    | nil => exact absurd rfl some
    | cons c more =>
      refine ⟨c, more, rfl, ?_⟩
      cases digit : c.isDigit with
      | true => rfl
      | false => exact absurd (List.takeWhile_cons_of_neg (by simp [digit])) some

theorem exponentPart_plain {c : Char} (small : c ≠ 'e') (large : c ≠ 'E') (more : List Char) :
    exponentPart (c :: more) = .ok (none, c :: more) := by
  unfold exponentPart
  split
  all_goals first
    | rfl
    | next same => cases same; contradiction

theorem exponentPart_digit {c digit : Char} (marked : c = 'e' ∨ c = 'E') (first : digit.isDigit = true) (more : List Char) :
    exponentPart (c :: digit :: more) = exponentDigits false (digit :: more) := by
  have minus : digit ≠ '-' := by rintro rfl; cases first
  have plus : digit ≠ '+' := by rintro rfl; cases first
  rcases marked with rfl | rfl
  · exact exponentPart.eq_5 _ (by simp [minus]) (by simp [plus])
  · exact exponentPart.eq_6 _ (by simp [minus]) (by simp [plus])

theorem exponentPart_append {found : Option (Bool × List Char)} (ends : endsNumber rest = true)
    (read : exponentPart text = .ok (found, left)) : exponentPart (text ++ rest) = .ok (found, left ++ rest) := by
  have unsigned : ∀ {c : Char} {more : List Char}, c = 'e' ∨ c = 'E' → exponentDigits false more = .ok (found, left) →
      exponentPart (c :: more ++ rest) = .ok (found, left ++ rest) := by
    intro c more marked read
    obtain ⟨⟨exponent, later⟩, first, -⟩ := map_ok read
    obtain ⟨digit, others, rfl, numeric⟩ := digits_head first
    rw [List.cons_append, List.cons_append, exponentPart_digit marked numeric]
    exact exponentDigits_append ends read
  unfold exponentPart at read
  split at read
  case h_7 plain =>
    cases read
    cases text with
    | nil => exact exponentPart_none ends
    | cons c more =>
      apply exponentPart_plain
      · rintro rfl
        simp at *
      · rintro rfl
        simp at *
  case h_5 => exact unsigned (.inl rfl) read
  case h_6 => exact unsigned (.inr rfl) read
  all_goals exact exponentDigits_append ends read

theorem unsignedLexeme_append {negative : Bool} {found : Lexeme} (ends : endsNumber rest = true)
    (read : unsignedLexeme negative text = .ok (found, left)) :
    unsignedLexeme negative (text ++ rest) = .ok (found, left ++ rest) := by
  simp only [unsignedLexeme, bind_ok] at read
  obtain ⟨⟨whole, afterWhole⟩, first, read⟩ := read
  split at read
  · cases read
  next leading =>
    simp only [bind_ok] at read
    obtain ⟨⟨fraction, afterFraction⟩, second, ⟨exponent, afterExponent⟩, third, ⟨⟩⟩ := read
    simp only [unsignedLexeme, digits_append ends first, fractionPart_append ends second,
      exponentPart_append ends third, bind, Except.bind, if_neg leading]
    rfl

theorem unsignedLexeme_head {negative : Bool} {found : Lexeme} (read : unsignedLexeme negative text = .ok (found, left)) :
    ∃ c more, text = c :: more ∧ c.isDigit = true := by
  rw [unsignedLexeme, bind_ok] at read
  obtain ⟨_, first, -⟩ := read
  exact digits_head first

theorem lexeme_unsigned {c : Char} (digit : c.isDigit = true) (more : List Char) :
    lexeme (c :: more) = unsignedLexeme false (c :: more) := by
  unfold lexeme
  split
  next same =>
    cases same
    cases digit
  · rfl

/-- What was read as a number is read the same before anything that cannot go on with it. -/
theorem lexeme_append {found : Lexeme} (ends : endsNumber rest = true) (read : lexeme text = .ok (found, left)) :
    lexeme (text ++ rest) = .ok (found, left ++ rest) := by
  unfold lexeme at read
  split at read
  next => exact unsignedLexeme_append ends read
  next unsigned =>
    have appended := unsignedLexeme_append ends read
    obtain ⟨c, more, rfl, digit⟩ := unsignedLexeme_head read
    rw [List.cons_append] at appended ⊢
    rw [lexeme_unsigned digit, appended]

/-- A number starts with its sign or a digit. -/
theorem lexeme_head {found : Lexeme} (read : lexeme text = .ok (found, left)) :
    ∃ c more, text = c :: more ∧ (c = '-' ∨ c.isDigit = true) := by
  unfold lexeme at read
  split at read
  next more => exact ⟨'-', more, rfl, .inl rfl⟩
  · obtain ⟨c, more, same, digit⟩ := unsignedLexeme_head read
    exact ⟨c, more, same, .inr digit⟩

theorem number_append {found : Json} (ends : endsNumber rest = true) (read : number text = .ok (found, left)) :
    number (text ++ rest) = .ok (found, left ++ rest) := by
  obtain ⟨parts, first, valued⟩ := number_ok read
  rw [number, lexeme_append ends first]
  simp only [bind, Except.bind, valued]
  rfl

end Numbers

theorem writeInt_numeric (value : Int) : ∃ c more, writeInt value = c :: more ∧ (c = '-' ∨ c.isDigit = true) := by
  unfold writeInt
  split
  · exact ⟨'-', _, rfl, .inl rfl⟩
  · cases found : Nat.toDigits 10 value.toNat with
    | nil => exact absurd found Nat.toDigits_ne_nil
    | cons c more => exact ⟨c, more, rfl, .inr (isDigit_of_mem_toDigits c (found ▸ List.mem_cons_self))⟩

theorem solid_of_numeric {c : Char} (numeric : c = '-' ∨ c.isDigit = true) : Text.isPlainBlank c = false := by
  cases blank : Text.isPlainBlank c with
  | false => rfl
  | true =>
    simp only [Text.isPlainBlank, Bool.or_eq_true, beq_iff_eq] at blank
    rcases blank with ((rfl | rfl) | rfl) | rfl <;> simp at numeric

/-- Blanks before a value do not matter. -/
theorem opening_blanks {blanks : List Char} (blank : AllBlank blanks) (text : List Char) :
    opening (blanks ++ text) = opening text := by
  unfold opening
  rw [skipBlanks_append blank]

theorem opening_number {c : Char} (numeric : c = '-' ∨ c.isDigit = true) (more : List Char) :
    opening (c :: more) = .number (c :: more) := by
  unfold opening
  rw [skipBlanks_solid (solid_of_numeric numeric)]
  split
  all_goals first
    | rfl
    | next same => cases same; simp at numeric

/-- The text of a float is read as the same float. -/
def Restored (number : Float) : Prop := Json.number (Decimal.writeFloat floatLayout number) = .ok (.float number, [])

/-- The floats in a value are read back as they were. -/
def Exact (value : Json) : Prop := ∀ number ∈ value.floats, Restored number

section Exact

theorem exact_of_isIntegral {value : Json} (integral : value.isIntegral = true) : value.Exact :=
  fun _ inside => absurd inside (not_mem_floats integral)

theorem exact_array {items : List Json} : (Json.array items).Exact ↔ ∀ item ∈ items, item.Exact := by
  simp only [Exact, floats, mem_floatsOfItems]
  constructor
  · intro precise item member number inside
    exact precise number ⟨item, member, inside⟩
  · rintro precise number ⟨item, member, inside⟩
    exact precise item member number inside

theorem exact_object {members : SortedMap Json} :
    (Json.object members).Exact ↔ ∀ member ∈ members.toList, member.2.Exact := by
  simp only [Exact, floats, mem_floatsOfMembers]
  constructor
  · intro precise entry member number inside
    exact precise number ⟨entry, member, inside⟩
  · rintro precise number ⟨entry, member, inside⟩
    exact precise entry member number inside

end Exact

/-- A text of a value. Blanks may stand after every bracket, comma and colon and before a closing
bracket, and the members of an object come in any order. -/
inductive Spells : Json → List Char → Prop
  | null : Spells .null ['n', 'u', 'l', 'l']
  | bool (value : Bool) :
      Spells (.bool value) (if value then ['t', 'r', 'u', 'e'] else ['f', 'a', 'l', 's', 'e'])
  | integer (value : Int) (inRange : InRange value) : Spells (.integer value inRange) (writeInt value)
  | float {value : Float} (restored : Restored value) : Spells (.float value) (Decimal.writeFloat floatLayout value)
  | string (text : String) : Spells (.string text) (quote text.toList)
  | array {before after : List Char} {write : Json → List Char} {items : List Json} (blankBefore : AllBlank before)
      (blankAfter : AllBlank after) (each : ∀ item ∈ items, Spells item (write item)) :
      Spells (.array items) ('[' :: enclosed ']' before after (items.map write))
  | object {before after gap : List Char} {write : Json → List Char} {members : SortedMap Json}
      {ordered : List (String × Json)} (blankBefore : AllBlank before) (blankAfter : AllBlank after)
      (blankGap : AllBlank gap) (shuffled : ordered.Perm members.toList)
      (each : ∀ member ∈ members.toList, Spells member.2 (write member.2)) :
      Spells (.object members)
        ('{' :: enclosed '}' before after (ordered.map fun member => memberText gap member.1 (write member.2)))

theorem Restored.numeric {value : Float} (restored : Restored value) :
    ∃ c more, Decimal.writeFloat floatLayout value = c :: more ∧ (c = '-' ∨ c.isDigit = true) := by
  obtain ⟨_, first, -⟩ := number_ok restored
  exact lexeme_head first

namespace Spells

variable {written : Json} {text : List Char}

/-- A text starts with something that neither is a blank nor closes a bracket. -/
theorem solid (spells : Spells written text) :
    ∃ c more, text = c :: more ∧ Text.isPlainBlank c = false ∧ c ≠ ']' := by
  have number : ∀ {text : List Char}, (∃ c more, text = c :: more ∧ (c = '-' ∨ c.isDigit = true)) →
      ∃ c more, text = c :: more ∧ Text.isPlainBlank c = false ∧ c ≠ ']' := by
    rintro text ⟨c, more, same, numeric⟩
    refine ⟨c, more, same, solid_of_numeric numeric, ?_⟩
    rintro rfl
    simp at numeric
  cases spells with
  | null => exact ⟨_, _, rfl, by decide, by decide⟩
  | bool flag => cases flag <;> exact ⟨_, _, rfl, by decide, by decide⟩
  | integer value => exact number (writeInt_numeric value)
  | float restored => exact number restored.numeric
  | string => exact ⟨_, _, rfl, by decide, by decide⟩
  | array => exact ⟨_, _, rfl, by decide, by decide⟩
  | object => exact ⟨_, _, rfl, by decide, by decide⟩

/-- Reading a text of a value gives the value, and stops behind it. -/
theorem reads (spells : Spells written text) : ∀ limit, written.depth ≤ limit → Reads (value limit) text fun _ => written := by
  induction spells with
  | null =>
    intro limit _ blanks rest blank _
    rw [List.append_assoc, value_eq, opening_blanks blank]
    rfl
  | bool flag =>
    intro limit _ blanks rest blank _
    rw [List.append_assoc, value_eq, opening_blanks blank]
    cases flag <;> rfl
  | integer value inRange =>
    intro limit _ blanks rest blank ends
    obtain ⟨c, more, same, numeric⟩ := writeInt_numeric value
    have read := number_writeInt inRange ends
    rw [List.append_assoc, value_eq, opening_blanks blank]
    rw [same, List.cons_append] at read ⊢
    rw [opening_number numeric]
    exact read
  | @float value restored =>
    intro limit _ blanks rest blank ends
    obtain ⟨c, more, same, numeric⟩ := restored.numeric
    have read : number (Decimal.writeFloat floatLayout value ++ rest) = .ok (.float value, rest) :=
      number_append ends restored
    rw [List.append_assoc, value_eq, opening_blanks blank]
    rw [same, List.cons_append] at read ⊢
    rw [opening_number numeric]
    exact read
  | string text =>
    intro limit _ blanks rest blank _
    have opened : opening (quote text.toList ++ rest) = .string (text.toList.flatMap escape ++ '"' :: rest) := by
      simp only [quote, List.cons_append, List.append_assoc, List.nil_append]
      rfl
    rw [List.append_assoc, value_eq, opening_blanks blank, opened]
    simp only [stringBody_quoted, Except.map, List.reverse_nil, List.nil_append, String.ofList_toList]
  | array blankBefore blankAfter each ih =>
    intro limit shallow blanks rest blank _
    obtain ⟨inner, rfl⟩ : ∃ inner, limit = inner + 1 := ⟨limit - 1, by rw [depth] at shallow; omega⟩
    rw [depth_array_le] at shallow
    have read := itemsAfter_enclosed rest blankBefore blankAfter (fun item member => (each item member).solid)
      (fun item member => ih item member inner (shallow item member)) fun _ _ => rfl
    rw [List.append_assoc, value_eq, opening_blanks blank]
    simp only [List.cons_append]
    rw [show opening ('[' :: (_ ++ rest)) = .array (_ ++ rest) from rfl]
    simp only [read, Except.map, List.map_id']
  | @object before after gap write members ordered blankBefore blankAfter blankGap shuffled each ih =>
    intro limit shallow blanks rest blank _
    obtain ⟨inner, rfl⟩ : ∃ inner, limit = inner + 1 := ⟨limit - 1, by rw [depth] at shallow; omega⟩
    rw [depth_object_le] at shallow
    have inside : ∀ member ∈ ordered, Reads (value inner) (write member.2) fun _ => member.2 := by
      intro member present
      have present := shuffled.mem_iff.mp present
      exact ih member present inner (shallow member present)
    have read := membersAfter_enclosed write (fun value _ => value) rest blankBefore blankAfter blankGap inside
    have whole : SortedMap.ofList ordered = members :=
      (Ascending.ofList_perm members.nodup_keys shuffled).trans members.ofList_toList
    rw [List.append_assoc, value_eq, opening_blanks blank]
    simp only [List.cons_append]
    rw [show opening ('{' :: (_ ++ rest)) = .object (_ ++ rest) from rfl]
    simp only [read, Except.map, List.map_id', whole]

theorem readWithin {blanks : List Char} {limit : Nat} (spells : Spells written text) (blank : AllBlank blanks)
    (shallow : written.depth ≤ limit) : Json.readWithin limit (blanks ++ text) = .ok written := by
  have read := spells.reads limit shallow blanks [] blank rfl
  rw [List.append_nil] at read
  simp only [Json.readWithin, read, bind, Except.bind]
  rfl

end Spells
end ScriptedTask.Json
