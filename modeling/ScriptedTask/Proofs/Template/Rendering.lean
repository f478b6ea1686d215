import ScriptedTask.Proofs.Overlay
import ScriptedTask.Proofs.Template.Writing

/-! What templates mean. A template says its texts, without the blanks that its tags take away, and in
place of each tag what the name in it stands for. -/

namespace ScriptedTask

theorem Ascending.get?_mapValues {α β : Type} {lower : Option String} (f : α → β) (entries : Ascending α lower)
    (wanted : String) : (entries.mapValues f).get? wanted = (entries.get? wanted).map f := by
  induction entries with
  | nil => rfl
  | cons name above value rest ih =>
    by_cases same : wanted = name
    · simp [mapValues, get?, same]
    · simp [mapValues, get?, same, ih]

/-- What a name stands for: a brace pair under the two fixed names, else the variable's own text. An
unbound name stands for nothing. -/
def meaningOf (values : Values) (name : String) : String :=
  if name = "brl" then "\x7b\x7b"
  else if name = "brr" then "\x7d\x7d"
  else
    match values.get? name with
    | some (.string text) => text
    | some value => value.text
    | none => ""

namespace Placeholders

theorem get?_ofVariables (values : Values) (name : String) :
    (ofVariables values).get? name =
      if name = "brr" then some "\x7d\x7d" else if name = "brl" then some "\x7b\x7b"
      else (values.get? name).map textOf := by
  rw [ofVariables, Ascending.get?_insert, Ascending.get?_insert, Ascending.get?_mapValues]

theorem lookUp_ofVariables (values : Values) (name : List Char) :
    Template.lookUp (ofVariables values) name = (meaningOf values (String.ofList name)).toList := by
  rw [Template.lookUp, get?_ofVariables, meaningOf]
  by_cases right : String.ofList name = "brr"
  · rw [right]
    rfl
  by_cases left : String.ofList name = "brl"
  · rw [left]
    rfl
  rw [if_neg right, if_neg left, if_neg left, if_neg right]
  cases values.get? (String.ofList name) with
  | none => rfl
  | some value => cases value <;> rfl

end Placeholders

/-- A text without the plain blanks at its ends, at each end only if a tag takes them away. -/
def stripped (leading trailing : Bool) (text : List Char) : List Char :=
  let text := if leading then text.dropWhile Text.isPlainBlank else text
  if trailing then (text.reverse.dropWhile Text.isPlainBlank).reverse else text

namespace Writing

/-- What a template says. `trims` tells whether a tag before it takes away the blanks at its start. -/
def meaning (values : Values) (trims : Bool) : Writing → List Char
  | .text rest _ => stripped trims false rest
  | .action before _ _ tag after =>
    stripped trims tag.trimsBefore before ++ (meaningOf values (String.ofList tag.name)).toList ++
      after.meaning values tag.trimsAfter

theorem fill_template (values : Values) (writing : Writing) (trims : Bool) :
    writing.template.fill (Placeholders.ofVariables values) trims = writing.meaning values trims := by
  induction writing generalizing trims with
  | text rest unopened => rfl
  | action before unopened apart tag after ih =>
    rw [template, Template.fill, ih, meaning, Placeholders.lookUp_ofVariables]
    rfl

theorem render_ok_iff {values : Values} {text result : String} :
    (Placeholders.ofVariables values).render text = .ok result ↔
      ∃ writing : Writing, writing.spell = text.toList ∧ result = String.ofList (writing.meaning values false) := by
  constructor
  · intro rendered
    obtain ⟨template, read, rfl⟩ := map_ok rendered
    obtain ⟨writing, spelled, rfl⟩ := parse_ok_iff.mp read
    exact ⟨writing, spelled, by rw [fill_template]⟩
  · rintro ⟨writing, spelled, rfl⟩
    rw [Placeholders.render, parse_ok_iff.mpr ⟨writing, spelled, rfl⟩, ← fill_template]
    rfl

end Writing

namespace Placeholders

theorem render_error_iff {placeholders : Placeholders} {text : String} {problem : TemplateError} :
    placeholders.render text = .error problem ↔ Template.parse text = .error problem := map_error

/-- A text is rendered just if it is written as a template, which it is in one way only; and then the
result is what that template says. -/
theorem render_is_what_is_written :
    Function.Injective Writing.spell ∧ ∀ (values : Values) (text result : String),
      (ofVariables values).render text = .ok result ↔
        ∃ writing : Writing, writing.spell = text.toList ∧ result = String.ofList (writing.meaning values false) :=
  ⟨Writing.spell_injective, fun _ _ _ => Writing.render_ok_iff⟩

end Placeholders
end ScriptedTask
