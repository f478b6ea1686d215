import ScriptedTask.Proofs.Template.References

/-! Texts that are to be taken literally. A text becomes a template of itself once each of its openings
is looked up under the fixed name for it; the rest of the text opens nothing. -/

namespace ScriptedTask

namespace Template

/-- The text with every opening replaced by the look-up of one. Openings are taken from left to right
and do not overlap. -/
def escapeOpenings : List Char → List Char
  | '{' :: '{' :: rest => ['{', '{', '.', 'b', 'r', 'l', '}', '}'] ++ escapeOpenings rest
  | c :: rest => c :: escapeOpenings rest
  | [] => []

def escape (text : String) : String := String.ofList (escapeOpenings text.toList)

theorem escapeOpenings_unopened {text : List Char} (unopened : ¬['{', '{'] <:+: text) : escapeOpenings text = text := by
  induction text with
  | nil => rfl
  | cons c text ih =>
    have alone := not_pair_of_not_infix unopened
    rw [escapeOpenings, ih (not_infix_tail unopened)]
    intro rest brace starts
    exact alone brace rest starts

/-- The first opening is the one that scanning finds first, whatever comes behind it. -/
theorem escapeOpenings_first {before : List Char} (clear : Clear '{' before) (rest : List Char) :
    escapeOpenings (before ++ '{' :: '{' :: rest) =
      before ++ ['{', '{', '.', 'b', 'r', 'l', '}', '}'] ++ escapeOpenings rest := by
  induction before with
  | nil => rfl
  | cons c before ih =>
    have alone := clear.not_pair ('{' :: rest)
    rw [List.cons_append, escapeOpenings, ih clear.tail]
    · rfl
    · intro others brace starts
      exact alone brace others starts

theorem escape_unopened {text : String} (unopened : ¬['{', '{'] <:+: text.toList) : escape text = text := by
  rw [escape, escapeOpenings_unopened unopened, String.ofList_toList]

end Template

namespace Writing

theorem isIdentifier_brl : IsIdentifier ['b', 'r', 'l'] := by decide +kernel

/-- An escaped text is written with no tags but those of its openings, and says the text itself. No
variable has a part in that, not even one with the name of the opening. -/
theorem exists_escaped (text : List Char) :
    ∃ writing : Writing, writing.spell = Template.escapeOpenings text ∧ ∀ values, writing.meaning values false = text := by
  rcases first_pair '{' text with unopened | ⟨before, rest, clear, rfl⟩
  · refine ⟨.text text unopened, (Template.escapeOpenings_unopened unopened).symm, ?_⟩
    intro values
    simp [meaning, stripped]
  · -- The first opening becomes an action; what is behind it is shorter and escaped by itself.
    obtain ⟨after, spelled, meant⟩ := exists_escaped rest
    refine ⟨.action before clear.unpaired clear.ends (.bare _ isIdentifier_brl) after, ?_, ?_⟩
    · rw [Template.escapeOpenings_first clear, spell, spelled]
      simp [Tag.bare, Tag.inside, Tag.body, sign]
    · intro values
      have opening : meaningOf values (String.ofList ['b', 'r', 'l']) = "\x7b\x7b" := if_pos rfl
      simp [meaning, Tag.bare, stripped, opening, meant]
termination_by text.length
decreasing_by
  subst_vars
  simp only [List.length_append, List.length_cons]
  omega

end Writing

namespace Placeholders

theorem render_escape (values : Values) (text : String) :
    (ofVariables values).render (Template.escape text) = .ok text := by
  obtain ⟨writing, spelled, meant⟩ := Writing.exists_escaped text.toList
  apply Writing.render_ok_iff.mpr
  refine ⟨writing, ?_, ?_⟩
  · rw [spelled, Template.escape, String.toList_ofList]
  · rw [meant, String.ofList_toList]

/-- Every text can be written literally, whatever the variables are: with its openings looked up it is
rendered to itself, and a text without openings needs no escaping. -/
theorem every_text_can_be_written (values : Values) (text : String) :
    (ofVariables values).render (Template.escape text) = .ok text ∧
      (¬['{', '{'] <:+: text.toList → (ofVariables values).render text = .ok text) := by
  refine ⟨render_escape values text, ?_⟩
  intro unopened
  have rendered := render_escape values text
  rwa [Template.escape_unopened unopened] at rendered

/-- Braces that stand alone or close nothing are written as they are, also next to variables that bear
the names of the brace pairs. -/
theorem loose_braces_are_literal :
    ¬['{', '{'] <:+: "\x7b \x7d\x7d \x7b".toList ∧
      (ofVariables (SortedMap.ofList [("brl", .null), ("brr", .bool true)])).render "\x7b \x7d\x7d \x7b" = .ok "\x7b \x7d\x7d \x7b" :=
  have unopened : ¬['{', '{'] <:+: "\x7b \x7d\x7d \x7b".toList := by decide +kernel
  ⟨unopened, (every_text_can_be_written _ _).2 unopened⟩

end Placeholders
end ScriptedTask
