import ScriptedTask.Proofs.Template.Rendering

/-! Where texts fail to be templates. What comes before the failure is a template by itself, and the
opening behind it is closed by nothing, or encloses no tag. So failures are a matter of the text alone, and
one whose opening is closed is mended by nothing that follows. -/

namespace ScriptedTask

/-- What is wrong with an opening at the offset if this text follows it. -/
inductive Misfit (offset : Nat) : List Char → TemplateError → Prop where
  | unclosed {rest : List Char} (unclosed : ¬['}', '}'] <:+: rest) : Misfit offset rest (.unclosed offset)
  | untagged {inside rest : List Char} (closes : Clear '}' inside) (untagged : ∀ tag : Tag, tag.inside ≠ inside) :
      Misfit offset (inside ++ '}' :: '}' :: rest)
        (.unsupportedAction (String.ofList (Text.trimBlanks inside)) offset)

theorem closing_occurs (inside rest : List Char) : ['}', '}'] <:+: inside ++ '}' :: '}' :: rest :=
  ⟨inside, rest, by simp⟩

namespace Misfit

variable {offset : Nat} {rest : List Char} {problem : TemplateError}

theorem unclosed_iff (misfit : Misfit offset rest problem) :
    problem = .unclosed offset ↔ ¬['}', '}'] <:+: rest := by
  cases misfit with
  | unclosed unclosed => exact iff_of_true rfl unclosed
  | untagged closes untagged => exact iff_of_false nofun fun unclosed => unclosed (closing_occurs _ _)

/-- What is enclosed stays enclosed. -/
theorem append (misfit : Misfit offset rest problem) (closed : ['}', '}'] <:+: rest) (more : List Char) :
    Misfit offset (rest ++ more) problem := by
  cases misfit with
  | unclosed unclosed => exact absurd closed unclosed
  | @untagged inside rest closes untagged =>
    have whole : inside ++ '}' :: '}' :: rest ++ more = inside ++ '}' :: '}' :: (rest ++ more) := by simp
    rw [whole]
    exact .untagged closes untagged

end Misfit

namespace Writing

section Action

variable {before : List Char} {unopened : ¬['{', '{'] <:+: before} {apart : before.getLast? ≠ some '{'}
  {tag : Tag} {after : Writing}

theorem getLast?_spell_action :
    (action before unopened apart tag after).spell.getLast? = some (after.spell.getLast?.getD '}') := by
  simp [spell, List.getLast?_append, List.getLast?_cons]

theorem byteCount_spell_action (offset : Nat) :
    offset + Text.byteCount (action before unopened apart tag after).spell =
      offset + Text.byteCount before + 2 + Text.byteCount tag.inside + 2 + Text.byteCount after.spell := by
  have opening : '{'.utf8Size = 1 := rfl
  have closing : '}'.utf8Size = 1 := rfl
  simp only [spell, Text.byteCount_append, Text.byteCount, opening, closing]
  omega

end Action

/-- A shape that is no template's goes wrong behind what is written as one. -/
theorem exists_of_ofShape_error {text : List Char} {shape : Shape} {offset : Nat} {problem : TemplateError}
    (has : HasShape text shape) (failed : Template.ofShape offset shape = .error problem) :
    ∃ (writing : Writing) (rest : List Char), text = writing.spell ++ '{' :: '{' :: rest ∧
      writing.spell.getLast? ≠ some '{' ∧ Misfit (offset + Text.byteCount writing.spell) rest problem := by
  induction has generalizing offset with
  | text unopened => cases failed
  | @unclosed before rest clear unclosed =>
    cases failed
    exact ⟨.text before clear.unpaired, rest, rfl, clear.ends, .unclosed unclosed⟩
  | @action before inside rest after clear closes continues ih =>
    rw [Template.ofShape] at failed
    cases found : Action.read? inside with
    | none =>
      simp only [found] at failed
      cases failed
      exact ⟨.text before clear.unpaired, _, rfl, clear.ends, .untagged closes (Tag.read?_eq_none_iff.mp found)⟩
    | some action =>
      simp only [found] at failed
      obtain ⟨tag, rfl, rfl⟩ := Tag.exists_of_read? found
      obtain ⟨writing, behind, rfl, apart, misfit⟩ := ih (map_error.mp failed)
      refine ⟨.action before clear.unpaired clear.ends tag writing, behind, ?_, ?_, ?_⟩
      · simp [spell]
      · rw [getLast?_spell_action]
        cases last : writing.spell.getLast? with
        | none => decide
        | some c => exact fun same => apart (last.trans same)
      · rw [byteCount_spell_action]
        exact misfit

/-- Whatever is written as a template, a misfit behind it is found. -/
theorem exists_shape_of_misfit {writing : Writing} {offset : Nat} {rest : List Char} {problem : TemplateError}
    (apart : writing.spell.getLast? ≠ some '{') (misfit : Misfit (offset + Text.byteCount writing.spell) rest problem) :
    ∃ shape, HasShape (writing.spell ++ '{' :: '{' :: rest) shape ∧
      Template.ofShape offset shape = .error problem := by
  induction writing generalizing offset with
  | text before unopened =>
    cases misfit with
    | unclosed unclosed => exact ⟨_, .unclosed ⟨unopened, apart⟩ unclosed, rfl⟩
    | @untagged inside others closes untagged =>
      obtain ⟨after, continues⟩ := exists_hasShape others
      refine ⟨_, .action ⟨unopened, apart⟩ closes continues, ?_⟩
      rw [Template.ofShape, Tag.read?_eq_none_iff.mpr untagged]
  | action before unopened clear tag after ih =>
    rw [byteCount_spell_action] at misfit
    have apartAfter : after.spell.getLast? ≠ some '{' := by
      intro last
      rw [getLast?_spell_action, last] at apart
      exact apart rfl
    obtain ⟨shape, continues, failed⟩ := ih apartAfter misfit
    refine ⟨.action before tag.inside shape, ?_, ?_⟩
    · have whole : (action before unopened clear tag after).spell ++ '{' :: '{' :: rest =
          before ++ '{' :: '{' :: (tag.inside ++ '}' :: '}' :: (after.spell ++ '{' :: '{' :: rest)) := by
        simp [spell]
      rw [whole]
      exact .action ⟨unopened, clear⟩ (clear_of_not_mem (tag.not_mem_inside (.inr rfl))) continues
    · rw [Template.ofShape, tag.read?_inside]
      dsimp only
      rw [failed]
      rfl

theorem parse_error_iff {text : String} {problem : TemplateError} :
    Template.parse text = .error problem ↔
      ∃ (writing : Writing) (rest : List Char), text.toList = writing.spell ++ '{' :: '{' :: rest ∧
        writing.spell.getLast? ≠ some '{' ∧ Misfit (Text.byteCount writing.spell) rest problem := by
  constructor
  · intro failed
    have found := exists_of_ofShape_error (hasShape_iff.mpr rfl) failed
    simpa only [Nat.zero_add] using found
  · intro ⟨writing, rest, whole, apart, misfit⟩
    rw [← Nat.zero_add (Text.byteCount writing.spell)] at misfit
    obtain ⟨shape, has, failed⟩ := exists_shape_of_misfit apart misfit
    rw [Template.parse, whole, has.ofText_eq, failed]

end Writing

def TemplateError.offset : TemplateError → Nat
  | .unclosed offset | .unsupportedAction _ offset => offset

theorem Misfit.offset_eq {offset : Nat} {rest : List Char} {problem : TemplateError} (misfit : Misfit offset rest problem) :
    problem.offset = offset := by
  cases misfit <;> rfl

/-- The text is a template up to an opening, and the problem lies there. -/
structure TemplateError.Located (problem : TemplateError) (text before rest : String) : Prop where
  opens : text.toList = before.toList ++ '{' :: '{' :: rest.toList
  /-- A brace right before the opening would be part of it. -/
  apart : before.toList.getLast? ≠ some '{'
  rendered : ∀ values, ∃ result, (Placeholders.ofVariables values).render before = .ok result
  misfit : Misfit before.utf8ByteSize rest.toList problem

theorem Writing.parse_error_iff_located {text : String} {problem : TemplateError} :
    Template.parse text = .error problem ↔ ∃ before rest, problem.Located text before rest := by
  rw [parse_error_iff]
  constructor
  · intro ⟨writing, rest, whole, apart, misfit⟩
    refine ⟨String.ofList writing.spell, String.ofList rest, ?_, ?_, ?_, ?_⟩
    · rw [String.toList_ofList, String.toList_ofList, whole]
    · rw [String.toList_ofList]
      exact apart
    · intro values
      exact ⟨_, render_ok_iff.mpr ⟨writing, String.toList_ofList.symm, rfl⟩⟩
    · rw [← Text.byteCount_toList, String.toList_ofList, String.toList_ofList]
      exact misfit
  · intro ⟨before, rest, located⟩
    obtain ⟨result, rendered⟩ := located.rendered SortedMap.empty
    obtain ⟨writing, spelled, -⟩ := render_ok_iff.mp rendered
    refine ⟨writing, rest.toList, ?_, ?_, ?_⟩
    · rw [spelled]
      exact located.opens
    · rw [spelled]
      exact located.apart
    · rw [spelled, Text.byteCount_toList]
      exact located.misfit

/-- If the opening is closed, the problem stays where it is whatever comes behind the text. -/
theorem TemplateError.Located.append {problem : TemplateError} {text before rest : String}
    (located : problem.Located text before rest) (closed : ['}', '}'] <:+: rest.toList) (more : String) :
    problem.Located (text ++ more) before (rest ++ more) where
  opens := by
    rw [String.toList_append, String.toList_append, located.opens]
    simp
  apart := located.apart
  rendered := located.rendered
  misfit := by
    rw [String.toList_append]
    exact located.misfit.append closed more.toList

namespace Placeholders

/-- A text that cannot be rendered fails under all variables alike, at an opening with nothing but a template
before it. The opening is unclosed just if no closing comes behind it; otherwise it encloses no tag, and the text
fails alike with anything behind it. -/
theorem failures_are_located (text : String) (problem : TemplateError) :
    (∀ left right : Values, (ofVariables left).render text = .error problem ↔ (ofVariables right).render text = .error problem) ∧
    (∀ values : Values, (ofVariables values).render text = .error problem ↔
      ∃ before rest, problem.Located text before rest) ∧
    ∀ before rest, problem.Located text before rest →
      problem.offset = before.utf8ByteSize ∧
      (problem = .unclosed before.utf8ByteSize ↔ ¬['}', '}'] <:+: rest.toList) ∧
      (['}', '}'] <:+: rest.toList → ∀ (values : Values) (more : String),
        (ofVariables values).render (text ++ more) = .error problem) := by
  refine ⟨?_, ?_, ?_⟩
  · intro left right
    rw [render_error_iff, render_error_iff]
  · intro values
    rw [render_error_iff, Writing.parse_error_iff_located]
  · intro before rest located
    refine ⟨located.misfit.offset_eq, located.misfit.unclosed_iff, ?_⟩
    intro closed values more
    apply render_error_iff.mpr
    exact Writing.parse_error_iff_located.mpr ⟨before, rest ++ more, located.append closed more⟩

/-- The umlaut takes two bytes, and the blanks that the first action trims count as they are written. -/
theorem call_is_refused_at_its_offset :
    ∃ before rest, (TemplateError.unsupportedAction "print" 15).Located
        "\u00fc \x7b\x7b- .a -\x7d\x7d\n \x7b\x7b print \x7d\x7d" before rest ∧
      before.utf8ByteSize = 15 ∧
      (ofVariables (SortedMap.ofList [("a", .null)])).render
        ("\u00fc \x7b\x7b- .a -\x7d\x7d\n \x7b\x7b print \x7d\x7d" ++ "\x7b\x7b") = .error (.unsupportedAction "print" 15) := by
  have failed : (ofVariables SortedMap.empty).render "\u00fc \x7b\x7b- .a -\x7d\x7d\n \x7b\x7b print \x7d\x7d" =
      .error (.unsupportedAction "print" 15) := by decide +kernel
  obtain ⟨-, found, behaves⟩ := failures_are_located "\u00fc \x7b\x7b- .a -\x7d\x7d\n \x7b\x7b print \x7d\x7d" (.unsupportedAction "print" 15)
  obtain ⟨before, rest, located⟩ := (found _).mp failed
  obtain ⟨offset, unclosed, stays⟩ := behaves before rest located
  have closed : ['}', '}'] <:+: rest.toList := by
    by_contra missing
    cases unclosed.mpr missing
  exact ⟨before, rest, located, offset.symm, stays closed _ _⟩

end Placeholders
end ScriptedTask
