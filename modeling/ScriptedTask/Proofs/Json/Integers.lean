import ScriptedTask.Json.Parser
import ScriptedTask.Json.Printer

/-! A whole number is read back as it was, unless what follows it could go on with the number. -/

namespace ScriptedTask.Json

/-- The text cannot go on with a number before it. -/
def endsNumber : List Char → Bool
  | [] => true
  | c :: _ => !(c.isDigit || c == '.' || c == 'e' || c == 'E')

theorem isDigit_of_mem_toDigits {value : Nat} : ∀ c ∈ Nat.toDigits 10 value, c.isDigit = true :=
  fun _ => Nat.isDigit_of_mem_toDigits (by decide) (by decide)

/-- A number that is not zero does not start with a zero. -/
theorem head?_toDigits {value : Nat} (positive : 0 < value) : (Nat.toDigits 10 value).head? ≠ some '0' := by
  induction value using Nat.base_induction 10 (by decide) with
  | single digit small =>
    rw [Nat.toDigits_of_lt_base small]
    have known : ∀ digit < 10, 0 < digit → [Nat.digitChar digit].head? ≠ some '0' := by decide
    exact known digit small positive
  | digit leading digit small more ih =>
    rw [← Nat.toDigits_append_toDigits (by decide) more small, List.head?_append]
    cases first : (Nat.toDigits 10 leading).head? with
    | none => exact absurd (List.head?_eq_none_iff.mp first) Nat.toDigits_ne_nil
    | some c =>
      rw [first] at ih
      exact ih more

theorem digitsValue_toDigits (value : Nat) : Decimal.digitsValue (Nat.toDigits 10 value) = value :=
  Nat.ofDigitChars_ten_toDigits

variable {rest : List Char}

theorem digits_toDigits (value : Nat) (ends : endsNumber rest = true) :
    digits (Nat.toDigits 10 value ++ rest) = .ok (Nat.toDigits 10 value, rest) := by
  have stops : rest.takeWhile Char.isDigit = [] ∧ rest.dropWhile Char.isDigit = rest := by
    cases rest with
    | nil => exact ⟨rfl, rfl⟩
    | cons c more =>
      simp only [endsNumber, Bool.not_eq_true', Bool.or_eq_false_iff] at ends
      simp [ends]
  have whole : (Nat.toDigits 10 value ++ rest).takeWhile Char.isDigit = Nat.toDigits 10 value := by
    rw [List.takeWhile_append_of_pos isDigit_of_mem_toDigits, stops.1, List.append_nil]
  rw [digits, whole, List.dropWhile_append_of_pos isDigit_of_mem_toDigits, stops.2]
  split
  next empty => exact absurd empty Nat.toDigits_ne_nil
  next => rfl

theorem fractionPart_none (ends : endsNumber rest = true) : fractionPart rest = .ok (none, rest) := by
  cases rest with
  | nil => rfl
  | cons c more =>
    unfold fractionPart
    split
    next same => cases same; simp [endsNumber] at ends
    next => rfl

theorem exponentPart_none (ends : endsNumber rest = true) : exponentPart rest = .ok (none, rest) := by
  cases rest with
  | nil => rfl
  | cons c more =>
    unfold exponentPart
    split
    all_goals first
      | rfl
      | next same => cases same; simp [endsNumber] at ends

theorem leading_toDigits (value : Nat) :
    ¬((Nat.toDigits 10 value).length > 1 ∧ (Nat.toDigits 10 value).head? = some '0') := by
  rintro ⟨long, zero⟩
  cases value with
  | zero => simp at long
  | succ less => exact head?_toDigits (Nat.succ_pos less) zero

theorem toDigits_unsigned (value : Nat) (rest more : List Char) : Nat.toDigits 10 value ++ rest ≠ '-' :: more := by
  intro same
  cases found : Nat.toDigits 10 value with
  | nil => exact absurd found Nat.toDigits_ne_nil
  | cons c others =>
    rw [found] at same
    cases same
    have digit := isDigit_of_mem_toDigits '-' (found ▸ List.mem_cons_self)
    exact absurd digit (by decide)

theorem unsignedLexeme_toDigits (negative : Bool) (value : Nat) (ends : endsNumber rest = true) :
    unsignedLexeme negative (Nat.toDigits 10 value ++ rest) = .ok (⟨negative, Nat.toDigits 10 value, none, none⟩, rest) := by
  simp only [unsignedLexeme, digits_toDigits value ends, fractionPart_none ends, exponentPart_none ends, bind,
    Except.bind, if_neg (leading_toDigits value)]
  rfl

theorem lexeme_writeInt (value : Int) (ends : endsNumber rest = true) :
    lexeme (writeInt value ++ rest) =
      .ok (⟨decide (value < 0), Nat.toDigits 10 value.natAbs, none, none⟩, rest) := by
  unfold writeInt
  split
  next negative =>
    rw [List.cons_append, lexeme, unsignedLexeme_toDigits true _ ends, decide_eq_true negative]
  next natural =>
    have magnitude : value.toNat = value.natAbs := by omega
    unfold lexeme
    split
    next more same => exact absurd same (toDigits_unsigned _ _ more)
    next => rw [unsignedLexeme_toDigits false _ ends, decide_eq_false natural, magnitude]

theorem number_writeInt {value : Int} (inRange : InRange value) (ends : endsNumber rest = true) :
    number (writeInt value ++ rest) = .ok (.integer value inRange, rest) := by
  have exact : (if value < 0 then -(value.natAbs : Int) else value.natAbs) = value := by omega
  have nonzero : ¬(value < 0 ∧ value.natAbs = 0) := by omega
  have whole : Lexeme.value? ⟨value < 0, Nat.toDigits 10 value.natAbs, none, none⟩ = some (.integer value inRange) := by
    simp only [Lexeme.value?, digitsValue_toDigits, decide_eq_true_eq, exact, if_neg nonzero, dif_pos inRange]
  rw [number, lexeme_writeInt value ends]
  simp only [bind, Except.bind, whole]
  rfl

end ScriptedTask.Json
