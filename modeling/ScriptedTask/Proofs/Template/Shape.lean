import ScriptedTask.Template.Shape

/-! Where texts open and close actions. A shape is described without scanning: by the text before
the first opening, what comes up to the first closing, and the shape of the rest. Scanning finds
just this shape. -/

namespace ScriptedTask

/-- The text holds no pair of the character, and does not end in it. A pair that is written behind
the text is then the first. -/
structure Clear (c : Char) (text : List Char) : Prop where
  unpaired : ¬[c, c] <:+: text
  ends : text.getLast? ≠ some c

section Pairs

variable {c first : Char} {text : List Char}

theorem not_infix_tail (unpaired : ¬[c, c] <:+: first :: text) : ¬[c, c] <:+: text :=
  fun inner => unpaired (List.infix_cons inner)

/-- Two characters at the front are no pair. -/
theorem not_pair_of_not_infix (unpaired : ¬[c, c] <:+: first :: text) : first = c → ∀ rest, text ≠ c :: rest := by
  rintro rfl rest rfl
  exact unpaired ⟨[], rest, rfl⟩

theorem Clear.tail (clear : Clear c (first :: text)) : Clear c text where
  unpaired := not_infix_tail clear.unpaired
  ends last := by
    cases text with
    | nil => cases last
    | cons second rest => exact clear.ends (by rw [List.getLast?_cons_cons, last])

theorem Clear.not_pair (clear : Clear c (first :: text)) (rest : List Char) :
    first = c → ∀ others, text ++ c :: rest ≠ c :: others := by
  rintro rfl others same
  cases text with
  | nil => exact clear.ends rfl
  | cons second more =>
    cases same
    exact clear.unpaired ⟨[], more, rfl⟩

theorem clear_nil : Clear c [] := ⟨by simp, nofun⟩

theorem clear_of_not_mem (absent : c ∉ text) : Clear c text where
  unpaired inner := absent (inner.subset List.mem_cons_self)
  ends last := absent (List.mem_of_getLast? last)

theorem Clear.cons {rest : List Char} (clear : Clear c text)
    (unpaired : first = c → ∀ others, text ++ c :: rest ≠ c :: others) : Clear c (first :: text) where
  unpaired inner := by
    rcases List.infix_cons_iff.mp inner with ⟨others, same⟩ | later
    · cases same
      exact unpaired rfl _ rfl
    · exact clear.unpaired later
  ends last := by
    cases text with
    | nil =>
      cases last
      exact unpaired rfl rest rfl
    | cons second more => exact clear.ends (by rw [← last, List.getLast?_cons_cons])

/-- A text holds no pair, or it has a first one. -/
theorem first_pair (c : Char) (text : List Char) :
    ¬[c, c] <:+: text ∨ ∃ before rest, Clear c before ∧ text = before ++ c :: c :: rest := by
  induction text with
  | nil => exact .inl (by simp)
  | cons first text ih =>
    by_cases pair : first = c ∧ ∃ rest, text = c :: rest
    · obtain ⟨rfl, rest, rfl⟩ := pair
      exact .inr ⟨[], rest, clear_nil, rfl⟩
    · have unpaired : first = c → ∀ rest, text ≠ c :: rest := fun same rest starts => pair ⟨same, rest, starts⟩
      rcases ih with none | ⟨before, rest, clear, rfl⟩
      · refine .inl fun inner => ?_
        rcases List.infix_cons_iff.mp inner with ⟨rest, same⟩ | later
        · cases same
          exact unpaired rfl rest rfl
        · exact none later
      · exact .inr ⟨first :: before, rest, clear.cons unpaired, rfl⟩

end Pairs

/-- The text opens and closes its actions in this shape. -/
inductive HasShape : List Char → Shape → Prop where
  | text {rest : List Char} (unopened : ¬['{', '{'] <:+: rest) : HasShape rest (.text rest)
  | unclosed {before rest : List Char} (clear : Clear '{' before) (unclosed : ¬['}', '}'] <:+: rest) :
      HasShape (before ++ '{' :: '{' :: rest) (.unclosed before)
  | action {before inside rest : List Char} {after : Shape} (clear : Clear '{' before) (closes : Clear '}' inside)
      (continues : HasShape rest after) :
      HasShape (before ++ '{' :: '{' :: (inside ++ '}' :: '}' :: rest)) (.action before inside after)

namespace Shape

variable {done before inside text rest : List Char}

theorem scan_text (unopened : ¬['{', '{'] <:+: text) : scan none done text = .text (done.reverse ++ text) := by
  induction text generalizing done with
  | nil => simp [scan]
  | cons c text ih =>
    have next := @ih (c :: done) (not_infix_tail unopened)
    have alone := not_pair_of_not_infix unopened
    rw [scan, next]
    · simp
    · intro rest brace starts
      exact alone brace rest starts

theorem scan_opening (clear : Clear '{' before) :
    scan none done (before ++ '{' :: '{' :: rest) = scan (some (done.reverse ++ before)) [] rest := by
  induction before generalizing done with
  | nil => simp [scan]
  | cons c before ih =>
    have next := @ih (c :: done) clear.tail
    have alone := clear.not_pair ('{' :: rest)
    rw [List.cons_append, scan, next]
    · simp
    · intro others brace starts
      exact alone brace others starts

theorem scan_unclosed (unclosed : ¬['}', '}'] <:+: text) : scan (some before) done text = .unclosed before := by
  induction text generalizing done with
  | nil => simp [scan]
  | cons c text ih =>
    have next := @ih (c :: done) (not_infix_tail unclosed)
    have alone := not_pair_of_not_infix unclosed
    rw [scan, next]
    intro rest brace starts
    exact alone brace rest starts

theorem scan_closing (clear : Clear '}' inside) :
    scan (some before) done (inside ++ '}' :: '}' :: rest) =
      .action before (done.reverse ++ inside) (scan none [] rest) := by
  induction inside generalizing done with
  | nil => simp [scan]
  | cons c inside ih =>
    have next := @ih (c :: done) clear.tail
    have alone := clear.not_pair ('}' :: rest)
    rw [List.cons_append, scan, next]
    · simp
    · intro others brace starts
      exact alone brace others starts

end Shape

theorem HasShape.ofText_eq {text : List Char} {shape : Shape} (has : HasShape text shape) :
    Shape.ofText text = shape := by
  induction has with
  | text unopened => exact Shape.scan_text unopened
  | unclosed clear unclosed => rw [Shape.ofText, Shape.scan_opening clear, Shape.scan_unclosed unclosed]; rfl
  | action clear closes continues ih =>
    rw [Shape.ofText, Shape.scan_opening clear, Shape.scan_closing closes, ← ih]
    rfl

theorem exists_hasShape (text : List Char) : ∃ shape, HasShape text shape := by
  rcases first_pair '{' text with unopened | ⟨before, behind, clear, rfl⟩
  · exact ⟨_, .text unopened⟩
  rcases first_pair '}' behind with unclosed | ⟨inside, rest, closes, rfl⟩
  · exact ⟨_, .unclosed clear unclosed⟩
  · obtain ⟨after, continues⟩ := exists_hasShape rest
    exact ⟨_, .action clear closes continues⟩
termination_by text.length
decreasing_by
  subst_vars
  simp only [List.length_append, List.length_cons]
  omega

/-- Scanning finds the one shape that a text has. -/
theorem hasShape_iff {text : List Char} {shape : Shape} : HasShape text shape ↔ Shape.ofText text = shape := by
  constructor
  · exact HasShape.ofText_eq
  · rintro rfl
    obtain ⟨shape, has⟩ := exists_hasShape text
    rw [has.ofText_eq]
    exact has

end ScriptedTask
