import ScriptedTask.Capability.Variables
import ScriptedTask.Proofs.Template.LookUps

/-! References to variables as templates. A token can be made of every name and taken apart again, but
as a template it leads to its own variable only if the name is an identifier. All other tokens are no
templates, or lead elsewhere. -/

namespace ScriptedTask

/-- Whatever a name holds, it comes back from its token. -/
theorem Reference.parse_token (name : String) : parse (token name) = .ok name := by
  have text : (token name).toList = front ++ name.toList ++ ending := String.toList_ofList
  have begins : front.isPrefixOf (front ++ name.toList ++ ending) = true := by
    rw [List.isPrefixOf_iff_prefix, List.append_assoc]
    exact List.prefix_append _ _
  have ends : ending.isSuffixOf (front ++ name.toList ++ ending) = true := by
    rw [List.isSuffixOf_iff_suffix]
    exact List.suffix_append _ _
  have inner : (front ++ name.toList ++ ending).take ((front ++ name.toList ++ ending).length - 2) =
      front ++ name.toList := by
    rw [List.length_append]
    exact List.take_left
  simp only [parse, text, begins, ends, inner, Bool.not_true, Bool.false_eq_true, if_false]
  exact congrArg Except.ok (String.ofList_toList)

theorem Shape.isIdentifier_names (shape : Shape) : ∀ name ∈ shape.names, IsIdentifier name := by
  induction shape with
  | text rest => exact fun _ member => nomatch member
  | unclosed before => exact fun _ member => nomatch member
  | action before inside after ih =>
    rw [names]
    cases found : Action.read? inside with
    | none => exact ih
    | some action =>
      obtain ⟨tag, -, rfl⟩ := Tag.exists_of_read? found
      exact List.forall_mem_cons.mpr ⟨tag.identifier, ih⟩

theorem isIdentifier_of_referenced {text name : String} (referred : name ∈ referencedNames text) :
    IsIdentifier name.toList := by
  obtain ⟨found, member, rfl⟩ := List.mem_map.mp referred
  rw [String.toList_ofList]
  exact Shape.isIdentifier_names _ found member

/-- An identifier in a tag without blanks and signs. -/
def Tag.bare (name : List Char) (identifier : IsIdentifier name) : Tag where
  trimsBefore := false
  lead := []
  name := name
  trail := []
  trimsAfter := false
  leadBlank := nofun
  identifier := identifier
  trailBlank := nofun
  leadPlain := nofun
  trailPlain := nofun

theorem Placeholders.render_token {name : String} (identifier : IsIdentifier name.toList) (values : Values) :
    (ofVariables values).render (Reference.token name) = .ok (meaningOf values name) := by
  apply Writing.render_ok_iff.mpr
  refine ⟨.action [] (by simp) nofun (.bare name.toList identifier) (.text [] (by simp)), ?_, ?_⟩
  · simp [Writing.spell, Tag.bare, Tag.inside, Tag.body, sign, Reference.token, Reference.front, Reference.ending]
  · simp [Writing.meaning, Tag.bare, stripped]

theorem Placeholders.render_bound {name : String} (identifier : IsIdentifier name.toList) (notLeft : name ≠ "brl")
    (notRight : name ≠ "brr") {values : Values} {value : Json} (bound : values.get? name = some value) :
    (ofVariables values).render (Reference.token name) = .ok (textOf value) := by
  rw [render_token identifier, meaningOf, if_neg notLeft, if_neg notRight, bound]
  cases value <;> rfl

namespace Variables

variable {name : String}

theorem fillTemplate_token (identifier : IsIdentifier name.toList) (notLeft : name ≠ "brl") (notRight : name ≠ "brr")
    {store : Variables} {value : Json} (bound : store.read? name = some value) :
    store.fillTemplate (Reference.token name) = .ok (Placeholders.textOf value) := by
  rw [read?] at bound
  rw [fillTemplate, Placeholders.render_bound identifier notLeft notRight bound]
  rfl

/-- What is bound to a name that is no identifier shows in no template. -/
theorem fillTemplate_write (strange : ¬IsIdentifier name.toList) (store : Variables) (value : Json) (template : String) :
    (store.write name value).fillTemplate template = store.fillTemplate template := by
  rw [fillTemplate, fillTemplate]
  congr 1
  apply Placeholders.render_ofVariables_congr
  intro other referred _ _
  have differ : other ≠ name := fun same => strange (same ▸ isIdentifier_of_referenced referred)
  rw [write, Ascending.get?_insert, if_neg differ]

theorem reference_of_bound {store : Variables} (bound : store.isBound name = true) :
    store.reference name = .ok (Reference.token name) := by
  rw [reference, if_pos bound]

theorem referencedName_token {store : Variables} (bound : store.isBound name = true) :
    store.referencedName (Reference.token name) = .ok name := by
  simp [referencedName, Reference.parse_token, bound]

theorem isBound_of_read? {store : Variables} {value : Json} (found : store.read? name = some value) :
    store.isBound name = true := by
  rw [read?] at found
  rw [isBound, Ascending.contains, found]
  rfl

theorem read?_write (store : Variables) (name : String) (value : Json) : (store.write name value).read? name = some value := by
  rw [read?, write, Ascending.get?_insert, if_pos rfl]

/-- The reference to a name is filled in with the name's own value, whatever that is, just if the name is
an identifier. The reference to another bound name can be taken apart, but as a template it says nothing
of the value. -/
theorem reference_fills_in_iff_identifier (notLeft : name ≠ "brl") (notRight : name ≠ "brr") :
    ((∀ (store : Variables) (value : Json), store.read? name = some value →
      (store.reference name >>= store.fillTemplate) = .ok (Placeholders.textOf value)) ↔ IsIdentifier name.toList) ∧
    (¬IsIdentifier name.toList → ∀ store : Variables, store.isBound name = true → ∃ token,
      store.reference name = .ok token ∧ store.referencedName token = .ok name ∧
      store.referencedValue token = .ok (store.read? name) ∧
      ((∃ problem, ∀ value, (store.write name value).fillTemplate token = .error problem) ∨
        ∃ text, ∀ value, (store.write name value).fillTemplate token = .ok text)) := by
  refine ⟨⟨?_, ?_⟩, ?_⟩
  · intro resolves
    by_cases identifier : IsIdentifier name.toList
    · exact identifier
    -- Two values with different texts cannot both be what one text says.
    let store : Variables := { current := SortedMap.empty }
    have filledIn : ∀ text, store.fillTemplate (Reference.token name) = .ok text := by
      intro text
      have written := store.read?_write name (.string text)
      obtain ⟨token, made, filled⟩ := bind_ok.mp (resolves _ _ written)
      rw [reference_of_bound (isBound_of_read? written)] at made
      cases made
      rw [← fillTemplate_write identifier store (.string text), filled]
      rfl
    have same := (filledIn "a").symm.trans (filledIn "b")
    exact absurd (Except.ok.inj same) (by decide)
  · intro identifier store value bound
    exact bind_ok.mpr
      ⟨_, reference_of_bound (isBound_of_read? bound), fillTemplate_token identifier notLeft notRight bound⟩
  · intro strange store bound
    refine ⟨Reference.token name, reference_of_bound bound, referencedName_token bound, ?_, ?_⟩
    · rw [referencedValue, referencedName_token bound]
      rfl
    · simp only [fillTemplate_write strange]
      cases filled : store.fillTemplate (Reference.token name) with
      | error problem => exact .inl ⟨problem, fun _ => rfl⟩
      | ok text => exact .inr ⟨text, fun _ => rfl⟩

/-- A store with a name that is an identifier and one that is none. -/
def measured : Variables := { current := SortedMap.ofList [("size", .string "large"), ("size.x", .string "small")] }

theorem dotted_name_is_filled_in_by_none :
    (measured.reference "size" >>= measured.fillTemplate) = .ok "large" ∧ ∃ token,
      measured.reference "size.x" = .ok token ∧ measured.referencedName token = .ok "size.x" ∧
      measured.referencedValue token = .ok (measured.read? "size.x") ∧
      ((∃ problem, ∀ value, (measured.write "size.x" value).fillTemplate token = .error problem) ∨
        ∃ text, ∀ value, (measured.write "size.x" value).fillTemplate token = .ok text) := by
  have identifier : IsIdentifier "size".toList := by decide +kernel
  have dotted : ¬IsIdentifier "size.x".toList := by decide +kernel
  have held : measured.read? "size" = some (.string "large") := by
    rw [read?, measured, Ascending.get?_ofList]
    rfl
  have bound : measured.isBound "size.x" = true := by decide +kernel
  exact ⟨(reference_fills_in_iff_identifier (by decide) (by decide)).1.mpr identifier measured _ held,
    (reference_fills_in_iff_identifier (by decide) (by decide)).2 dotted measured bound⟩

end Variables
end ScriptedTask
