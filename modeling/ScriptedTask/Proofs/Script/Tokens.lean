import ScriptedTask.Json.Printer
import ScriptedTask.Script.Token

/-! Tokens of texts that are put together of words, marks and quoted texts. -/

namespace ScriptedTask.Script.Token

open Text (Units)

/-! Quoted texts -/

section Quoted

variable {c : Char}

theorem hexValue?_control :
    ∀ code < 32, hexValue? ['0', '0', Json.hexDigit (code / 16), Json.hexDigit (code % 16)] = some code := by
  decide +kernel

theorem escape_control (control : c < ' ') (rest : List Char) :
    escape ('u' :: '0' :: '0' :: Json.hexDigit (c.toNat / 16) :: Json.hexDigit (c.toNat % 16) :: rest) =
      .ok ((Text.Units.ofChar c, false), rest) := by
  have code : codePoint ('0' :: '0' :: Json.hexDigit (c.toNat / 16) :: Json.hexDigit (c.toNat % 16) :: rest) =
      .ok (c.toNat, rest) := by
    have digits := hexValue?_control c.toNat control
    simp [codePoint, digits]
  have small : c.toNat < 0x10000 := Nat.lt_trans control (by decide)
  rw [escape, code]
  simp [codeUnits, Text.Units.ofChar, small, Pure.pure, Except.pure, Bind.bind, Except.bind]

theorem stringBody_plain (quote : c ≠ '"') (backslash : c ≠ '\\') (plain : c ≠ '\n' ∧ c ≠ '\r') (verbatim : Bool) (fuel : Nat)
    (units : Units) (rest : List Char) : stringBody '"' (fuel + 1) units verbatim false (c :: rest) =
      stringBody '"' fuel (units ++ (Text.Units.ofChar c).toArray) verbatim false rest := by
  rw [stringBody, if_neg quote, if_neg (not_or.mpr plain)]
  exact backslash

/-- What a character is written as in quotes stands for the character. -/
theorem stringBody_escape (c : Char) (verbatim : Bool) : ∃ verbatim', ∀ (fuel : Nat) (units : Units) (rest : List Char),
    stringBody '"' (fuel + 1) units verbatim false (Json.escape c ++ rest) =
      stringBody '"' fuel (units ++ (Text.Units.ofChar c).toArray) verbatim' false rest := by
  unfold Json.escape
  iterate 7
    split
    next same =>
      subst same
      exact ⟨false, fun _ _ _ => rfl⟩
  split
  next control =>
    refine ⟨false, fun fuel units rest => ?_⟩
    rw [List.cons_append, stringBody]
    simp only [List.cons_append, List.nil_append, escape_control control]
    rfl
  next quote backslash _ _ line _ feed _ => exact ⟨verbatim, stringBody_plain quote backslash ⟨line, feed⟩ verbatim⟩

theorem stringBody_quoted (text : List Char) (verbatim : Bool) : ∃ verbatim',
    ∀ (fuel : Nat) (units : Units) (rest : List Char), text.length < fuel → stringBody '"' fuel units verbatim false (text.flatMap Json.escape ++ '"' :: rest) =
      .ok (.string (units ++ (Text.Units.encode text).toArray) verbatim' false, rest) := by
  induction text generalizing verbatim with
  | nil =>
    refine ⟨verbatim, fun fuel units rest enough => ?_⟩
    obtain ⟨left, rfl⟩ : ∃ left, fuel = left + 1 := Nat.exists_eq_add_one.mpr enough
    simp [stringBody, Text.Units.encode]
  | cons c more ih =>
    obtain ⟨still, escaped⟩ := stringBody_escape c verbatim
    obtain ⟨last, read⟩ := ih still
    refine ⟨last, fun fuel units rest enough => ?_⟩
    obtain ⟨left, rfl⟩ : ∃ left, fuel = left + 1 := Nat.exists_eq_add_one.mpr (Nat.lt_of_le_of_lt (Nat.zero_le _) enough)
    rw [List.flatMap_cons, List.append_assoc, escaped, read left _ rest (by simpa using enough)]
    simp [Text.Units.encode]

theorem length_le_escaped (text : List Char) : text.length ≤ (text.flatMap Json.escape).length := by
  have some (c : Char) : 1 ≤ (Json.escape c).length := by
    unfold Json.escape
    repeat' split
    all_goals simp
  induction text with
  | nil => simp
  | cons c more ih =>
    have := some c
    rw [List.flatMap_cons, List.length_append, List.length_cons]
    omega

end Quoted

/-! Words -/

section Words

variable {c next : Char} {word rest : List Char} {fuel : Nat}

theorem namePart_ne (part : isNamePart c = true) : c ≠ '\\' := by
  rintro rfl
  exact absurd part (by decide +kernel)

theorem wordBody_word (parts : word.all isNamePart = true) (stops : isNamePart next = false ∧ next ≠ '\\')
    (enough : word.length < fuel) (units : Units) (rest : List Char) :
    wordBody fuel units false (word ++ next :: rest) =
      .ok (.word (units ++ (Text.Units.encode word).toArray) false, next :: rest) := by
  induction word generalizing fuel units with
  | nil =>
    obtain ⟨left, rfl⟩ : ∃ left, fuel = left + 1 := Nat.exists_eq_add_one.mpr (Nat.lt_of_le_of_lt (Nat.zero_le _) enough)
    rw [List.nil_append, wordBody, if_neg (by rw [stops.1]; exact Bool.false_ne_true)]
    · simp [Text.Units.encode]
    · exact fun _ same => absurd same stops.2
  | cons c more ih =>
    obtain ⟨left, rfl⟩ : ∃ left, fuel = left + 1 := Nat.exists_eq_add_one.mpr (Nat.lt_of_le_of_lt (Nat.zero_le _) enough)
    rw [List.all_cons, Bool.and_eq_true] at parts
    rw [List.cons_append, wordBody, if_pos parts.1, ih parts.2 (by simpa using enough)]
    · simp [Text.Units.encode]
    · exact fun _ same => absurd same (namePart_ne parts.1)

theorem one_word (starts : isNameStart c = true) (parts : (c :: word).all isNamePart = true)
    (stops : isNamePart next = false ∧ next ≠ '\\') (enough : (c :: word).length < fuel) (rest : List Char) :
    one fuel (c :: word ++ next :: rest) = .ok (.word (Text.Units.encode (c :: word)).toArray false, next :: rest) := by
  have differs {mark : Char} (other : isNameStart mark = false) : c ≠ mark := by
    rintro rfl
    exact Bool.false_ne_true (other.symm.trans starts)
  rw [List.cons_append, one, if_pos starts, ← List.cons_append, wordBody_word parts stops enough, Array.empty_append]
  · exact differs (by decide +kernel)
  · exact differs (by decide +kernel)
  · exact differs (by decide +kernel)
  · exact fun _ same => absurd same (differs (by decide +kernel))

end Words

/-! Texts token by token -/

/-- The open braces behind a token. -/
def bracesAfter (token : Token) (braces : List Bool) : List Bool :=
  match token with
  | .mark "\x7b" => false :: braces
  | .mark "\x7d" => braces.drop 1
  | .piece _ _ false => true :: braces
  | _ => braces

/-- The front of a text is cut into tokens; then the rest is still to be read. -/
def Cuts (before : List Bool) (text : List Char) (lexemes : List Lexeme) (after : List Bool) (rest : List Char) : Prop :=
  ∀ fuel done, text.length < fuel → ∃ left, rest.length < left ∧
    readAll fuel before done text = readAll left after (done ++ lexemes.toArray) rest

section Cuts

variable {before between after : List Bool} {text middle rest more : List Char} {first second : List Lexeme} {c : Char}
  {token : Token} {broken : Bool}

theorem Cuts.trans (cuts : Cuts before text first between middle) (others : Cuts between middle second after rest) :
    Cuts before text (first ++ second) after rest := by
  intro fuel done enough
  obtain ⟨less, stillEnough, read⟩ := cuts fuel done enough
  obtain ⟨left, lastEnough, readRest⟩ := others less (done ++ first.toArray) stillEnough
  refine ⟨left, lastEnough, ?_⟩
  rw [read, readRest]
  simp

theorem Cuts.one (skipped : ∀ fuel, skipBlanks (fuel + 2) false text = .ok (broken, c :: more))
    (inside : c ≠ '\x7d' ∨ before.head? ≠ some true)
    (read : ∀ fuel, text.length ≤ fuel → Token.one fuel (c :: more) = .ok (token, rest))
    (shorter : rest.length < text.length) : Cuts before text [⟨token, broken⟩] (bracesAfter token before) rest := by
  intro fuel done enough
  obtain ⟨left, rfl⟩ : ∃ left, fuel = left + 2 := ⟨fuel - 2, by omega⟩
  refine ⟨left + 1, by omega, ?_⟩
  have tokens := read (left + 1) (by omega)
  rw [readAll, skipped]
  simp only [Bind.bind, Except.bind]
  split
  next none_ => cases none_
  next closes =>
    cases closes
    simp at inside
  · rw [tokens, ← Array.push_eq_append]
    rfl

theorem Cuts.mark (before : List Bool) (gap : List Char) (c : Char) (text : String) (more : List Char)
    (skipped : ∀ fuel, skipBlanks (fuel + 2) false (gap ++ c :: more) = .ok (broken, c :: more))
    (inside : c ≠ '\x7d' ∨ before.head? ≠ some true) (read : ∀ fuel, Token.one fuel (c :: more) = .ok (.mark text, more)) :
    Cuts before (gap ++ c :: more) [⟨.mark text, broken⟩] (bracesAfter (.mark text) before) more :=
  Cuts.one skipped inside (fun fuel _ => read fuel) (by simp; omega)

theorem Cuts.word (before : List Bool) (gap : List Char) {word : List Char} {next : Char}
    (skipped : ∀ fuel rest, skipBlanks (fuel + 2) false (gap ++ c :: rest) = .ok (broken, c :: rest))
    (starts : isNameStart c = true) (parts : (c :: word).all isNamePart = true) (stops : isNamePart next = false ∧ next ≠ '\\') (rest : List Char) :
    Cuts before (gap ++ (c :: word ++ next :: rest)) [⟨.word (Text.Units.encode (c :: word)).toArray false, broken⟩] before
      (next :: rest) := by
  have noBrace : c ≠ '\x7d' := by
    rintro rfl
    exact absurd starts (by decide +kernel)
  refine Cuts.one (fun fuel => skipped fuel _) (.inl noBrace) (fun fuel enough => one_word starts parts stops ?_ rest) ?_
  · simp at enough ⊢
    omega
  · simp
    omega

theorem Cuts.quoted (text : List Char) : ∃ verbatim, ∀ (before : List Bool) (rest : List Char),
    Cuts before (Json.quote text ++ rest) [⟨.string (Text.Units.encode text).toArray verbatim false, false⟩] before rest := by
  obtain ⟨verbatim, read⟩ := stringBody_quoted text true
  refine ⟨verbatim, fun before rest => ?_⟩
  have quoted : Json.quote text ++ rest = '"' :: (text.flatMap Json.escape ++ '"' :: rest) := by simp [Json.quote]
  have long := length_le_escaped text
  rw [quoted]
  refine Cuts.one (fun _ => rfl) (.inl (by decide)) (fun fuel enough => ?_) ?_
  · have whole := read fuel #[] rest (by simp only [List.length_cons, List.length_append] at enough; omega)
    rw [Array.empty_append] at whole
    exact whole
  · simp
    omega

/-- These are all tokens if the text is cut into them to its end. -/
theorem Cuts.tokens (cuts : Cuts [] text first after []) : tokens text = .ok first := by
  obtain ⟨left, enough, read⟩ := cuts (text.length + 1) #[] (Nat.lt_succ_self _)
  obtain ⟨less, rfl⟩ : ∃ less, left = less + 1 := Nat.exists_eq_add_one.mpr enough
  rw [Token.tokens, read, Array.empty_append]
  rfl

end Cuts

end ScriptedTask.Script.Token
