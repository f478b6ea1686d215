import Mathlib.Data.List.TakeWhile
import ScriptedTask.Proofs.Json.Integers
import ScriptedTask.Proofs.Json.Layout
import ScriptedTask.Proofs.Script.Written

/-! The way into a script. A value is printed outside and read by the script, which finds the same
value if its numbers are whole and below 2^53: escapes come back as the characters they stand for,
characters above U+FFFF as two units, digits as their number, and members in their order. -/

namespace ScriptedTask

namespace Json

theorem compactMembers_cons {lower : Option String} {name : String} (above : Above lower name) (value : Json)
    (rest : Ascending Json (some name)) : compactMembers (.cons name above value rest) =
      ',' :: (quote name.toList ++ ':' :: (value.compact ++ compactMembers rest)) := by
  simp [compactMembers]

/-! Each part of a value has a shorter text, so a reader that counts nesting by the text's length
has enough to go down with. -/

theorem length_item {items : List Json} {item : Json} (inside : item ∈ items) :
    item.compact.length < (array items).compact.length := by
  have within : item.compact.length < (compactItems items).length := by
    induction inside with
    | head =>
      simp only [compactItems, List.length_append, List.length_cons]
      omega
    | tail _ _ ih =>
      simp only [compactItems, List.length_append, List.length_cons]
      omega
  cases items with
  | nil => cases inside
  | cons first rest => simpa [compact, compactItems] using within

theorem length_value {members : SortedMap Json} {member : String × Json} (inside : member ∈ members.toList) :
    member.2.compact.length < (object members).compact.length := by
  have within {lower : Option String} (members : Ascending Json lower) (inside : member ∈ members.toList) :
      member.2.compact.length < (compactMembers members).length := by
    induction members with
    | nil => cases inside
    | cons name above value rest ih =>
      rcases List.mem_cons.mp inside with rfl | later
      · simp only [compactMembers_cons, List.length_append, List.length_cons]
        omega
      · have shorter := ih later
        simp only [compactMembers_cons, List.length_append, List.length_cons]
        omega
  cases members with
  | nil => cases inside
  | cons name above value rest => simpa [compact, compactMembers] using within _ inside

end Json

namespace Script

open Text (Units)
open Text.Units (encode ofChar encode_append encode_ascii length_le_encode)

namespace PlainText

/-- Basic characters are told apart by their units. -/
theorem charOf_ofNat {c : Char} (small : c.toNat < 128) : charOf (UInt16.ofNat c.toNat) = c := by
  have code : (UInt16.ofNat c.toNat).toNat = c.toNat := Text.Units.toNat_ofNat_small (Nat.lt_trans small (by decide))
  have basic : UInt16.ofNat c.toNat < 128 := UInt16.lt_iff_toNat_lt.mpr (code.symm ▸ small)
  rw [charOf, if_pos basic, code, Char.ofNat_toNat]

section Strings

variable {fuel : Nat} {done : Units} {rest : List UInt16}

theorem stringBody_unit {unit : UInt16} (quote : unit ≠ 34) (backslash : unit ≠ 92) (plain : ¬unit < 32) :
    stringBody (fuel + 1) done (unit :: rest) = stringBody fuel (done ++ #[unit]) rest := by
  rw [stringBody, if_neg plain, Array.push_eq_append]
  · exact quote
  · exact fun _ same _ => backslash same
  · exact fun _ _ same _ => backslash same

theorem stringBody_simple {unit found : UInt16} (coded : unit ≠ 117) (escaped : escaped? unit = some found) :
    stringBody (fuel + 1) done (92 :: unit :: rest) = stringBody fuel (done ++ #[found]) rest := by
  rw [stringBody]
  · simp only [escaped, Array.push_eq_append]
  · exact coded

theorem stringBody_code {a b c d unit : UInt16} (code : hexUnit? [a, b, c, d] = some unit) :
    stringBody (fuel + 1) done (92 :: 117 :: a :: b :: c :: d :: rest) = stringBody fuel (done ++ #[unit]) rest := by
  rw [stringBody]
  simp [code]

/-- What is above the basic characters stands for itself. -/
theorem stringBody_large {units : List UInt16} (large : ∀ unit ∈ units, 128 ≤ unit.toNat) :
    stringBody (fuel + units.length) done (units ++ rest) = stringBody fuel (done ++ units.toArray) rest := by
  induction units generalizing done with
  | nil => simp
  | cons unit more ih =>
    rw [List.forall_mem_cons] at large
    obtain ⟨differs, notLess⟩ := Text.Units.unlike_of_large large.1
    rw [List.cons_append, List.length_cons, ← Nat.add_assoc,
      stringBody_unit (differs 34 (by decide)) (differs 92 (by decide)) notLess, ih large.2]
    simp

/-- A control character is written by its code. -/
theorem hexUnit?_control : ∀ code < 32,
    encode ['\\', 'u', '0', '0', Json.hexDigit (code / 16), Json.hexDigit (code % 16)] =
        [92, 117, 48, 48, UInt16.ofNat (Json.hexDigit (code / 16)).toNat, UInt16.ofNat (Json.hexDigit (code % 16)).toNat] ∧
      hexUnit? [48, 48, UInt16.ofNat (Json.hexDigit (code / 16)).toNat, UInt16.ofNat (Json.hexDigit (code % 16)).toNat] =
        some (UInt16.ofNat code) := by
  decide

theorem stringBody_control {c : Char} (control : c < ' ') :
    stringBody (fuel + 1) done (encode ['\\', 'u', '0', '0', Json.hexDigit (c.toNat / 16), Json.hexDigit (c.toNat % 16)] ++ rest) =
      stringBody fuel (done ++ #[UInt16.ofNat c.toNat]) rest := by
  obtain ⟨written, code⟩ := hexUnit?_control c.toNat control
  rw [written]
  exact stringBody_code code

theorem stringBody_escape (c : Char) : stringBody (fuel + (ofChar c).length) done (encode (Json.escape c) ++ rest) =
    stringBody fuel (done ++ (ofChar c).toArray) rest := by
  by_cases large : 128 ≤ c.toNat
  · have itself : encode [c] = ofChar c := List.flatMap_singleton ..
    rw [Json.escape_large large, itself, stringBody_large (Text.Units.ofChar_large large)]
  · have small : ofChar c = [UInt16.ofNat c.toNat] := Text.Units.ofChar_small (by omega)
    unfold Json.escape
    iterate 7
      split
      next same => subst same; exact stringBody_simple (by decide) (by decide)
    split
    next control =>
      rw [small]
      exact stringBody_control control
    next quote backslash _ _ _ _ _ plain =>
      rw [small, encode, List.flatMap_singleton, small]
      have unlike : ∀ unit, c ≠ charOf unit → UInt16.ofNat c.toNat ≠ unit := by
        rintro _ differ rfl
        exact differ (charOf_ofNat (Nat.lt_of_not_le large)).symm
      refine stringBody_unit (unlike 34 quote) (unlike 92 backslash) ?_
      rw [UInt16.lt_iff_toNat_lt, Text.Units.toNat_ofNat_small (by omega)]
      exact plain

theorem length_ofChar (c : Char) : (ofChar c).length ≤ (encode (Json.escape c)).length := by
  by_cases large : 128 ≤ c.toNat
  · have itself : encode [c] = ofChar c := List.flatMap_singleton ..
    exact Nat.le_of_eq (by rw [Json.escape_large large, itself])
  · have small : ofChar c = [UInt16.ofNat c.toNat] := Text.Units.ofChar_small (by omega)
    have some : 1 ≤ (Json.escape c).length := by
      unfold Json.escape
      repeat' split
      all_goals exact Nat.le_add_left 1 _
    rw [small]
    exact Nat.le_trans some (length_le_encode _)

/-- A quoted text is read as it was, whatever follows it. -/
theorem stringBody_quoted (text : List Char) (enough : (encode (text.flatMap Json.escape)).length < fuel) :
    stringBody fuel done (encode (text.flatMap Json.escape) ++ 34 :: rest) = some (done ++ (encode text).toArray, rest) := by
  induction text generalizing done fuel with
  | nil =>
    obtain ⟨less, rfl⟩ : ∃ less, fuel = less + 1 := ⟨fuel - 1, by omega⟩
    rfl
  | cons c more ih =>
    have parted : encode (c :: more) = ofChar c ++ encode more := List.flatMap_cons
    have shorter := length_ofChar c
    rw [List.flatMap_cons, encode_append, List.length_append] at enough
    obtain ⟨less, rfl⟩ : ∃ less, fuel = less + (ofChar c).length := ⟨fuel - (ofChar c).length, by omega⟩
    rw [List.flatMap_cons, encode_append, List.append_assoc, stringBody_escape, ih (by omega), parted]
    simp

end Strings

section Numbers

variable {rest : List UInt16}

/-- The text cannot go on with a number before it. -/
def endsNumber : List UInt16 → Bool
  | [] => true
  | unit :: _ => !isNumeric unit

/-- Digits are basic characters, and numeric. -/
theorem digit_numeric {c : Char} (digit : c.isDigit = true ∨ c = '-') :
    c.toNat < 128 ∧ isNumeric (UInt16.ofNat c.toNat) = true := by
  have known : ∀ code < 128, (Char.ofNat code).isDigit = true ∨ Char.ofNat code = '-' → isNumeric (UInt16.ofNat code) = true := by
    decide
  have small : c.toNat < 128 := by
    rcases digit with digit | rfl
    · exact Nat.lt_of_le_of_lt (Char.isDigit_iff_toNat.mp digit).2 (by decide)
    · decide
  refine ⟨small, known c.toNat small ?_⟩
  rwa [Char.ofNat_toNat]

/-- The characters of a number are taken off the text. -/
theorem takeWhile_numeric {text : List Char} (numeric : ∀ c ∈ text, c.isDigit = true ∨ c = '-')
    (ends : endsNumber rest = true) : ((encode text ++ rest).takeWhile isNumeric).map charOf = text := by
  have small : ∀ c ∈ text, c.toNat < 128 := fun c inside => (digit_numeric (numeric c inside)).1
  have stops : rest.takeWhile isNumeric = [] := by
    cases rest with
    | nil => rfl
    | cons unit more =>
      rw [endsNumber, Bool.not_eq_true'] at ends
      exact List.takeWhile_cons_of_neg (by simp [ends])
  rw [encode_ascii small, List.takeWhile_append_of_pos, stops, List.append_nil, List.map_map]
  · exact (List.map_congr_left fun c inside => charOf_ofNat (small c inside)).trans (List.map_id text)
  · intro unit inside
    obtain ⟨c, member, rfl⟩ := List.mem_map.mp inside
    exact (digit_numeric (numeric c member)).2

theorem readDecimal_toDigits {value : Nat} (safe : Num.isSafe value = true) :
    Num.readDecimal (Nat.toDigits 10 value) = some (.int value, []) := by
  have whole : (Nat.toDigits 10 value).takeWhile Char.isDigit = Nat.toDigits 10 value :=
    List.takeWhile_eq_self_iff.mpr Json.isDigit_of_mem_toDigits
  have rest : (Nat.toDigits 10 value).dropWhile Char.isDigit = [] :=
    List.dropWhile_eq_nil_iff.mpr Json.isDigit_of_mem_toDigits
  have some : (Nat.toDigits 10 value).isEmpty = false := List.isEmpty_eq_false_iff.mpr Nat.toDigits_ne_nil
  simp only [Num.readDecimal, whole, rest]
  simp [some, Json.digitsValue_toDigits, Num.ofDecimal, safe]

theorem unsigned?_toDigits {value : Nat} (safe : Num.isSafe value = true) :
    unsigned? (Nat.toDigits 10 value) = some (.int value) := by
  have whole : (Nat.toDigits 10 value).takeWhile Char.isDigit = Nat.toDigits 10 value :=
    List.takeWhile_eq_self_iff.mpr Json.isDigit_of_mem_toDigits
  have some : (Nat.toDigits 10 value).isEmpty = false := List.isEmpty_eq_false_iff.mpr Nat.toDigits_ne_nil
  have leading : (decide (1 < (Nat.toDigits 10 value).length) && (Nat.toDigits 10 value).head? == Option.some '0') = false := by
    simpa using Json.leading_toDigits value
  simp only [unsigned?, whole, List.drop_length, some, leading, readDecimal_toDigits safe]
  rfl

theorem signed?_writeInt {value : Int} (safe : Num.isSafe value = true) :
    signed? (Json.writeInt value) = some (.int value) := by
  have absolute : Num.isSafe (value.natAbs : Int) = true := by
    simp only [Num.isSafe, Bool.and_eq_true, decide_eq_true_eq] at safe ⊢
    omega
  unfold Json.writeInt
  split
  next negative =>
    have nonzero : (value.natAbs : Int) ≠ 0 := by omega
    have same : -(value.natAbs : Int) = value := by omega
    rw [signed?, unsigned?_toDigits absolute, Option.map_some, Num.neg, if_neg nonzero, same]
  next natural =>
    have magnitude : value.toNat = value.natAbs := by omega
    have same : (value.natAbs : Int) = value := by omega
    rw [magnitude]
    unfold signed?
    split
    next more starts => exact absurd ((List.append_nil _).trans starts) (Json.toDigits_unsigned _ _ _)
    next => rw [unsigned?_toDigits absolute, same]

theorem writeInt_numeric (value : Int) : ∀ c ∈ Json.writeInt value, c.isDigit = true ∨ c = '-' := by
  intro c inside
  unfold Json.writeInt at inside
  split at inside
  · exact (List.mem_cons.mp inside).symm.imp_left (Json.isDigit_of_mem_toDigits c)
  · exact .inl (Json.isDigit_of_mem_toDigits c inside)

theorem encode_writeInt (value : Int) :
    ∃ unit units, encode (Json.writeInt value) = unit :: units ∧ isNumeric unit = true := by
  cases written : Json.writeInt value with
  | nil =>
    unfold Json.writeInt at written
    split at written
    · cases written
    · exact absurd written Nat.toDigits_ne_nil
  | cons c more =>
    obtain ⟨small, numeric⟩ := digit_numeric (writeInt_numeric value c (written ▸ List.mem_cons_self))
    refine ⟨UInt16.ofNat c.toNat, encode more, ?_, numeric⟩
    rw [encode, List.flatMap_cons, Text.Units.ofChar_small (Nat.lt_trans small (by decide))]
    rfl

/-- A whole number is read as it was. -/
theorem number_writeInt {value : Int} (safe : Num.isSafe value = true) (ends : endsNumber rest = true) :
    number (encode (Json.writeInt value) ++ rest) = some (.number (.int value), rest) := by
  have numeric := writeInt_numeric value
  have characters := takeWhile_numeric numeric ends
  have length : (encode (Json.writeInt value)).length = (Json.writeInt value).length := by
    rw [encode_ascii fun c inside => (digit_numeric (numeric c inside)).1, List.length_map]
  have left : (encode (Json.writeInt value) ++ rest).drop (Json.writeInt value).length = rest := by
    rw [← length, List.drop_left]
  rw [number, characters, left, signed?_writeInt safe]
  rfl

end Numbers

section Values

variable {α : Type} {rest : List UInt16} {depth fuel : Nat} {unit : UInt16}

/-- The reader reads the text, if what follows ends a number, and stops behind it. -/
def Reads (reader : Reader α) (text : List Char) (found : α) : Prop :=
  ∀ rest, endsNumber rest = true → reader (encode text ++ rest) = some (found, rest)

theorem skipSpace_solid (solid : isSpace unit = false) (rest : List UInt16) : skipSpace (unit :: rest) = unit :: rest :=
  List.dropWhile_cons_of_neg (by simp [solid])

theorem endsNumber_items (items : List Json) : endsNumber (encode (Json.compactItems items) ++ rest) = true := by
  cases items <;> rfl

/-- Items are read one after the other up to the closing bracket. -/
theorem items_compact {reader : Reader Plain} (others : List Json) : ∀ (first : Json) (done : List Plain) (fuel : Nat),
    others.length < fuel → (∀ item ∈ first :: others, Reads reader item.compact (Plain.ofJson item)) →
      items reader fuel done (encode (first.compact ++ Json.compactItems others) ++ rest) =
        some (done.reverse ++ Plain.ofItems (first :: others), rest) := by
  induction others with
  | nil =>
    intro first done fuel enough reads
    obtain ⟨less, rfl⟩ : ∃ less, fuel = less + 1 := ⟨fuel - 1, by omega⟩
    have read := reads first List.mem_cons_self (encode (Json.compactItems []) ++ rest) (endsNumber_items [])
    have closed : skipSpace (encode (Json.compactItems []) ++ rest) = 93 :: rest := skipSpace_solid rfl rest
    rw [encode_append, List.append_assoc, items, read]
    simp only [bind, Option.bind, closed, List.reverse_cons]
    rfl
  | cons second more ih =>
    intro first done fuel enough reads
    obtain ⟨less, rfl⟩ : ∃ less, fuel = less + 1 := ⟨fuel - 1, by omega⟩
    have read := reads first List.mem_cons_self (encode (Json.compactItems (second :: more)) ++ rest) (endsNumber_items _)
    have parted : skipSpace (encode (Json.compactItems (second :: more)) ++ rest) =
        44 :: (encode (second.compact ++ Json.compactItems more) ++ rest) := skipSpace_solid rfl _
    have next := ih second (Plain.ofJson first :: done) less (by rw [List.length_cons] at enough; omega) fun item member =>
      reads item (List.mem_cons_of_mem first member)
    rw [encode_append, List.append_assoc, items, read]
    simp only [bind, Option.bind, parted, next, List.reverse_cons, List.append_assoc]
    rfl

theorem encode_quote (text : List Char) : encode (Json.quote text) = 34 :: (encode (text.flatMap Json.escape) ++ [34]) := by
  rw [Json.quote, encode_append]
  rfl

theorem memberName_quote (name : String) (enough : (encode (Json.quote name.toList)).length ≤ fuel) (more : List Char) :
    memberName fuel (encode (Json.quote name.toList ++ ':' :: more) ++ rest) =
      some (Units.ofString name, encode more ++ rest) := by
  have opened : encode (Json.quote name.toList ++ ':' :: more) ++ rest =
      34 :: (encode (name.toList.flatMap Json.escape) ++ 34 :: 58 :: (encode more ++ rest)) := by
    have colon : encode (':' :: more) = 58 :: encode more := rfl
    rw [encode_append, encode_quote, colon]
    simp
  have shorter : (encode (name.toList.flatMap Json.escape)).length < fuel := by
    rw [encode_quote, List.length_cons, List.length_append, List.length_singleton] at enough
    omega
  have quoted : skipSpace (34 :: (encode (name.toList.flatMap Json.escape) ++ 34 :: 58 :: (encode more ++ rest))) = _ :=
    skipSpace_solid rfl _
  have parted : skipSpace (58 :: (encode more ++ rest)) = 58 :: (encode more ++ rest) := skipSpace_solid rfl _
  simp only [memberName, opened, quoted, stringBody_quoted name.toList shorter, bind, Option.bind, parted]
  simp [Units.ofString]

theorem length_member (name : String) (more : List Char) : (encode (Json.quote name.toList ++ ':' :: more)).length =
    (encode (Json.quote name.toList)).length + 1 + (encode more).length := by
  have colon : encode (':' :: more) = 58 :: encode more := rfl
  rw [encode_append, colon, List.length_append, List.length_cons]
  omega

/-- Members are read one after the other up to the closing brace. -/
theorem members_compact {reader : Reader Plain} {lower : Option String} (others : Ascending Json lower) :
    ∀ (name : String) (first : Json) (done : List Plain.Member) (fuel : Nat),
      (encode (Json.quote name.toList ++ ':' :: (first.compact ++ Json.compactMembers others))).length ≤ fuel →
      Reads reader first.compact (Plain.ofJson first) →
      (∀ member ∈ others.toList, Reads reader member.2.compact (Plain.ofJson member.2)) →
      members reader fuel done (encode (Json.quote name.toList ++ ':' :: (first.compact ++ Json.compactMembers others)) ++ rest) =
        some (done.reverse ++ .mk (Units.ofString name) (Plain.ofJson first) :: Plain.ofMembers others, rest) := by
  induction others with
  | @nil lower =>
    intro name first done fuel enough readsFirst _
    rw [length_member] at enough
    obtain ⟨less, rfl⟩ : ∃ less, fuel = less + 1 := ⟨fuel - 1, by omega⟩
    have last : Json.compactMembers (.nil : Ascending Json lower) = ['}'] := rfl
    have read := readsFirst (encode ['}'] ++ rest) rfl
    have closed : skipSpace (encode ['}'] ++ rest) = 125 :: rest := skipSpace_solid rfl rest
    rw [members, memberName_quote name (by omega), last, encode_append, List.append_assoc]
    simp only [bind, Option.bind, read, closed, List.reverse_cons]
    rfl
  | cons second above value more ih =>
    intro name first done fuel enough readsFirst readsOthers
    rw [Ascending.toList, List.forall_mem_cons] at readsOthers
    rw [length_member] at enough
    obtain ⟨less, rfl⟩ : ∃ less, fuel = less + 1 := ⟨fuel - 1, by omega⟩
    obtain ⟨others, written⟩ : ∃ others, Json.quote second.toList ++ ':' :: (value.compact ++ Json.compactMembers more) = others :=
      ⟨_, rfl⟩
    have comma : encode (Json.compactMembers (.cons second above value more)) = 44 :: encode others := by
      rw [Json.compactMembers_cons, written]
      rfl
    rw [encode_append, List.length_append, comma, List.length_cons] at enough
    have read := readsFirst (44 :: (encode others ++ rest)) rfl
    have parted : skipSpace (44 :: (encode others ++ rest)) = 44 :: (encode others ++ rest) := skipSpace_solid rfl _
    have next := ih second value (.mk (Units.ofString name) (Plain.ofJson first) :: done) less (by rw [written]; omega)
      readsOthers.1 readsOthers.2
    rw [written] at next
    rw [members, memberName_quote name (by omega), encode_append, comma, List.append_assoc, List.cons_append]
    simp only [bind, Option.bind, read, parted, next, List.reverse_cons, List.append_assoc]
    rfl

theorem solid_of_isNumeric (numeric : isNumeric unit = true) : isSpace unit = false := by
  cases space : isSpace unit with
  | false => rfl
  | true =>
    simp only [isSpace, Bool.or_eq_true, beq_iff_eq] at space
    rcases space with ((rfl | rfl) | rfl) | rfl <;> cases numeric

/-- A text that starts as no other value does is read as a number. -/
theorem value_number (numeric : isNumeric unit = true) : value (depth + 1) (unit :: rest) = number (unit :: rest) := by
  rw [value, skipSpace_solid (solid_of_isNumeric numeric)]
  split
  case h_7 => rfl
  all_goals
    next same =>
      cases same
      cases numeric

theorem value_string : value (depth + 1) (34 :: rest) =
    (stringBody rest.length #[] rest).map fun (units, rest) => (.text units, rest) := rfl

theorem value_list {units : List UInt16} (starts : units.head? = some unit) (solid : isSpace unit = false)
    (goesOn : unit ≠ 93) : value (depth + 1) (91 :: units) =
      (items (value depth) units.length [] units).map fun (read, rest) => (.list read, rest) := by
  obtain ⟨more, rfl⟩ := List.head?_eq_some_iff.mp starts
  have opened : skipSpace (91 :: unit :: more) = 91 :: unit :: more := skipSpace_solid rfl _
  rw [value, opened]
  simp only [skipSpace_solid solid]
  split
  next same => exact absurd (List.head_eq_of_cons_eq same) goesOn
  next => rfl

theorem value_record {units : List UInt16} (starts : units.head? = some 34) : value (depth + 1) (123 :: units) =
    (members (value depth) units.length [] units).map fun (read, rest) => (.record read, rest) := by
  obtain ⟨more, rfl⟩ := List.head?_eq_some_iff.mp starts
  rfl

/-- The first unit of an item is no space and closes nothing. -/
theorem starts_compact {json : Json} (safe : json.isSafe = true) :
    ∃ unit, (encode json.compact).head? = some unit ∧ isSpace unit = false ∧ unit ≠ 93 := by
  cases json with
  | null => exact ⟨_, rfl, rfl, by decide⟩
  | bool flag => cases flag <;> exact ⟨_, rfl, rfl, by decide⟩
  | integer number inRange =>
    obtain ⟨unit, units, starts, numeric⟩ := encode_writeInt number
    refine ⟨unit, by rw [Json.compact, starts]; rfl, solid_of_isNumeric numeric, ?_⟩
    rintro rfl
    cases numeric
  | float number => cases safe
  | string text => exact ⟨34, rfl, rfl, by decide⟩
  | array items => cases items <;> exact ⟨91, rfl, rfl, by decide⟩
  | object members => cases members <;> exact ⟨123, rfl, rfl, by decide⟩

theorem reads_integer {number : Int} (inRange : InRange number) (safe : Num.isSafe number = true) :
    Reads (value (depth + 1)) (Json.integer number inRange).compact (Plain.ofJson (.integer number inRange)) := by
  intro rest ends
  obtain ⟨unit, units, starts, numeric⟩ := encode_writeInt number
  have read := number_writeInt safe ends
  rw [starts, List.cons_append, ← value_number numeric, ← List.cons_append, ← starts] at read
  rw [Json.compact, read, Plain.ofJson, Num.ofInt, if_pos safe]

theorem reads_string (text : String) : Reads (value (depth + 1)) (Json.string text).compact (Plain.ofJson (.string text)) := by
  intro rest _
  have quoted : encode (Json.string text).compact ++ rest = 34 :: (encode (text.toList.flatMap Json.escape) ++ 34 :: rest) := by
    rw [Json.compact, encode_quote]
    simp
  rw [quoted, value_string, stringBody_quoted text.toList]
  · simp [Plain.ofJson, Units.ofString]
  · simp only [List.length_append, List.length_cons]
    omega

theorem reads_array {list : List Json} (safe : ∀ item ∈ list, item.isSafe = true)
    (reads : ∀ item ∈ list, Reads (value depth) item.compact (Plain.ofJson item)) :
    Reads (value (depth + 1)) (Json.array list).compact (Plain.ofJson (.array list)) := by
  intro rest _
  cases list with
  | nil => rfl
  | cons first others =>
    obtain ⟨unit, starts, solid, goesOn⟩ := starts_compact (safe first List.mem_cons_self)
    have opened : encode (Json.array (first :: others)).compact ++ rest =
        91 :: (encode (first.compact ++ Json.compactItems others) ++ rest) := rfl
    have begins : (encode (first.compact ++ Json.compactItems others) ++ rest).head? = some unit := by
      rw [encode_append, List.append_assoc, List.head?_append, starts]
      rfl
    have counted : others.length < (encode (first.compact ++ Json.compactItems others) ++ rest).length := by
      have counted := Json.length_enclosedRest ']' [] [] (others.map Json.compact)
      have encoded := length_le_encode (Json.compactItems others)
      rw [List.length_map, ← Json.compactItems_eq] at counted
      simp only [encode_append, List.length_append]
      omega
    rw [opened, value_list begins solid goesOn, items_compact others first [] _ counted reads]
    rfl

theorem reads_object {record : SortedMap Json}
    (reads : ∀ member ∈ record.toList, Reads (value depth) member.2.compact (Plain.ofJson member.2)) :
    Reads (value (depth + 1)) (Json.object record).compact (Plain.ofJson (.object record)) := by
  intro rest _
  cases record with
  | nil => rfl
  | cons name above first others =>
    rw [Ascending.toList, List.forall_mem_cons] at reads
    have shape : (Json.object (.cons name above first others)).compact =
        '{' :: (Json.quote name.toList ++ ':' :: (first.compact ++ Json.compactMembers others)) := by
      simp [Json.compact]
    have opened : encode (Json.object (.cons name above first others)).compact ++ rest =
        123 :: (encode (Json.quote name.toList ++ ':' :: (first.compact ++ Json.compactMembers others)) ++ rest) := by
      rw [shape]
      rfl
    rw [opened, value_record rfl, members_compact others name first [] _ (by simp) reads.1 reads.2]
    rfl

/-- A value whose numbers are safe is read as it was. -/
theorem reads_value (json : Json) : ∀ depth, json.compact.length ≤ depth → json.isSafe = true →
    Reads (value (depth + 1)) json.compact (Plain.ofJson json) := by
  induction json using Json.induct with
  | null => exact fun _ _ _ _ _ => rfl
  | bool flag => cases flag <;> exact fun _ _ _ _ _ => rfl
  | integer number inRange => exact fun _ _ safe => reads_integer inRange safe
  | float number =>
    intro _ _ safe
    cases safe
  | string text => exact fun _ _ _ => reads_string text
  | array items ih =>
    intro depth enough safe
    rw [Json.isSafe_array] at safe
    refine reads_array safe fun item inside => ?_
    have shorter := Json.length_item inside
    obtain ⟨less, rfl⟩ : ∃ less, depth = less + 1 := ⟨depth - 1, by omega⟩
    exact ih item inside less (by omega) (safe item inside)
  | object members ih =>
    intro depth enough safe
    rw [Json.isSafe_object] at safe
    refine reads_object fun member inside => ?_
    have shorter := Json.length_value inside
    obtain ⟨less, rfl⟩ : ∃ less, depth = less + 1 := ⟨depth - 1, by omega⟩
    exact ih member inside less (by omega) (safe member inside)

end Values

end PlainText

/-- What a script reads of the text of a value is the value. -/
theorem Plain.read?_text {json : Json} (safe : json.isSafe = true) :
    Plain.read? (Units.ofString json.text) = some (Plain.ofJson json) := by
  have text : (Units.ofString json.text).toList = encode json.compact := by
    rw [Units.ofString, Json.text, String.toList_ofList]
  have enough : json.compact.length ≤ (Units.ofString json.text).size := by
    rw [← Array.length_toList, text]
    exact length_le_encode json.compact
  have read := PlainText.reads_value json _ enough safe [] rfl
  rw [List.append_nil] at read
  rw [Plain.read?, text, read]
  rfl

/-- Such a value comes in as the plain data that it is. -/
theorem Eval.ofJson_eq_load {json : Json} (safe : json.isSafe = true) : Eval.ofJson json = Eval.load (Plain.ofJson json) := by
  rw [Eval.ofJson, Eval.parse, Plain.read?_text safe]

/-- It takes no work to bring it in, and the room that its objects need. -/
theorem Eval.costs_ofJson {json : Json} (safe : json.isSafe = true) (heap : Heap) :
    Costs (ofJson json) heap 0 json.room (Loaded json heap) := by
  rw [ofJson_eq_load safe]
  exact loads json heap

end Script

end ScriptedTask
