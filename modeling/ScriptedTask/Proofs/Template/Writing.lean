import ScriptedTask.Proofs.Outcomes
import ScriptedTask.Proofs.Template.Shape
import ScriptedTask.Proofs.Template.Tag
import ScriptedTask.Template.Basic

/-! How templates are written: texts and tags in turn. Every template is written in just one way,
and a text that is not written so is no template. -/

namespace ScriptedTask

/-- Texts without openings, and between any two of them a tag in braces. A text before a tag does not
end in a brace, which would belong to the opening. -/
inductive Writing where
  | text (rest : List Char) (unopened : ¬['{', '{'] <:+: rest)
  | action (before : List Char) (unopened : ¬['{', '{'] <:+: before) (apart : before.getLast? ≠ some '{')
      (tag : Tag) (after : Writing)

namespace Writing

/-- The characters of a template. -/
def spell : Writing → List Char
  | .text rest _ => rest
  | .action before _ _ tag after => before ++ '{' :: '{' :: (tag.inside ++ '}' :: '}' :: after.spell)

def shape : Writing → Shape
  | .text rest _ => .text rest
  | .action before _ _ tag after => .action before tag.inside after.shape

def template : Writing → Template
  | .text rest _ => .text rest
  | .action before _ _ tag after => .action before tag.action after.template

theorem hasShape_spell (writing : Writing) : HasShape writing.spell writing.shape := by
  induction writing with
  | text rest unopened => exact .text unopened
  | action before unopened apart tag after ih =>
    exact .action ⟨unopened, apart⟩ (clear_of_not_mem (tag.not_mem_inside (.inr rfl))) ih

theorem shape_injective : Function.Injective shape := by
  intro first second same
  induction first generalizing second with
  | text rest unopened =>
    cases second with
    | text => cases same; rfl
    | action => cases same
  | action before unopened apart tag after ih =>
    cases second with
    | text => cases same
    | action other unopenedToo apartToo otherTag otherAfter =>
      obtain ⟨rfl, inside, rest⟩ := Shape.action.inj same
      rw [Tag.inside_injective inside, ih rest]

/-- No two ways of writing give the same text. -/
theorem spell_injective : Function.Injective spell := by
  intro first second same
  apply shape_injective
  rw [← (hasShape_spell first).ofText_eq, ← (hasShape_spell second).ofText_eq, same]

theorem ofShape_shape (writing : Writing) (offset : Nat) :
    Template.ofShape offset writing.shape = .ok writing.template := by
  induction writing generalizing offset with
  | text rest unopened => rfl
  | action before unopened apart tag after ih =>
    simp only [shape, Template.ofShape, tag.read?_inside, ih, template]
    rfl

theorem exists_of_ofShape {text : List Char} {shape : Shape} {offset : Nat} {template : Template}
    (has : HasShape text shape) (read : Template.ofShape offset shape = .ok template) :
    ∃ writing : Writing, writing.spell = text ∧ writing.template = template := by
  induction has generalizing offset template with
  | text unopened =>
    cases read
    exact ⟨.text _ unopened, rfl, rfl⟩
  | unclosed => cases read
  | @action before inside rest after clear closes continues ih =>
    rw [Template.ofShape] at read
    cases found : Action.read? inside with
    | none =>
      simp only [found] at read
      cases read
    | some action =>
      simp only [found] at read
      obtain ⟨others, behind, rfl⟩ := map_ok read
      obtain ⟨tag, rfl, rfl⟩ := Tag.exists_of_read? found
      obtain ⟨writing, rfl, rfl⟩ := ih behind
      exact ⟨.action before clear.unpaired clear.ends tag writing, rfl, rfl⟩

/-- A text is read as a template just if it is written as one. -/
theorem parse_ok_iff {text : String} {template : Template} :
    Template.parse text = .ok template ↔ ∃ writing : Writing, writing.spell = text.toList ∧ writing.template = template := by
  constructor
  · exact exists_of_ofShape (hasShape_iff.mpr rfl)
  · rintro ⟨writing, spelled, rfl⟩
    rw [Template.parse, ← spelled, (hasShape_spell writing).ofText_eq, ofShape_shape]

end Writing
end ScriptedTask
