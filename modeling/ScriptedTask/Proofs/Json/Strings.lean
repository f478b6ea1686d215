import ScriptedTask.Json.Parser
import ScriptedTask.Json.Printer

/-! A quoted text is read back as it was. -/

namespace ScriptedTask.Json

theorem hex4?_control : ∀ code < 32,
    hex4? '0' '0' (hexDigit (code / 16)) (hexDigit (code % 16)) = some (UInt16.ofNat code) ∧
      Text.Units.isLowSurrogate (UInt16.ofNat code) = false ∧
      Text.Units.isHighSurrogate (UInt16.ofNat code) = false ∧ (UInt16.ofNat code).toNat = code := by
  decide

/-- A control character is written by its code. -/
theorem stringBody_control {c : Char} (control : c < ' ') (done rest : List Char) :
    stringBody done ('\\' :: 'u' :: '0' :: '0' :: hexDigit (c.toNat / 16) :: hexDigit (c.toNat % 16) :: rest) =
      stringBody (c :: done) rest := by
  obtain ⟨found, notLow, notHigh, code⟩ := hex4?_control c.toNat control
  rw [stringBody, found]
  simp only [notLow, notHigh, code, Char.ofNat_toNat, Bool.false_eq_true, if_false]

theorem stringBody_plain {c : Char} (quote : c ≠ '"') (backslash : c ≠ '\\') (plain : ¬c < ' ')
    (done rest : List Char) : stringBody done (c :: rest) = stringBody (c :: done) rest := by
  rw [stringBody.eq_def]
  split
  case h_5 same =>
    cases same
    exact if_neg plain
  all_goals simp_all

theorem stringBody_escape (c : Char) (done rest : List Char) :
    stringBody done (escape c ++ rest) = stringBody (c :: done) rest := by
  unfold escape
  iterate 7
    split
    next same => subst same; simp [stringBody, simpleEscape?]
  split
  next control => exact stringBody_control control done rest
  next quote backslash _ _ _ _ _ plain => exact stringBody_plain quote backslash plain done rest

theorem stringBody_quoted (text done rest : List Char) :
    stringBody done (text.flatMap escape ++ '"' :: rest) = .ok (done.reverse ++ text, rest) := by
  induction text generalizing done with
  | nil => simp [stringBody]
  | cons c more ih =>
    rw [List.flatMap_cons, List.append_assoc, stringBody_escape, ih, List.reverse_cons, List.append_assoc]
    rfl

end ScriptedTask.Json
