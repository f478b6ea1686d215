import ScriptedTask.Proofs.Json.RoundTrip
import ScriptedTask.Proofs.Outputs
import ScriptedTask.Proofs.Template.References

/-! Values on their way through texts. Outputs can be set to the text of a value, and templates are filled in
with texts of variables; the texts are the same, but for strings, which templates take as they are. Each text
tells its value, and nothing but the value. -/

namespace ScriptedTask

namespace Json

/-- A value that can be read back from its text: its numbers are whole, and it nests no deeper than the reader goes. -/
structure Legible (value : Json) : Prop where
  integral : value.isIntegral = true
  shallow : value.depth ≤ nestingLimit

variable {value other : Json}

theorem Legible.read_text (legible : value.Legible) : read value.text = .ok value := by
  have written := readWithin_written layout_compact allBlank_nil nestingLimit 0
    (exact_of_isIntegral legible.integral) legible.shallow
  rw [read, text, String.toList_ofList]
  exact written

theorem Legible.text_inj (legible : value.Legible) (otherLegible : other.Legible) (same : value.text = other.text) : value = other := by
  have read := legible.read_text
  rw [same, otherLegible.read_text] at read
  exact (Except.ok.inj read).symm

/-- An object does not show in which order its members were given. -/
theorem object_ofList_perm {members others : List (String × Json)} (distinct : (members.map Prod.fst).Nodup)
    (shuffled : others.Perm members) : object (SortedMap.ofList others) = object (SortedMap.ofList members) :=
  congrArg object (Ascending.ofList_perm distinct shuffled)

end Json

theorem Placeholders.textOf_of_not_string {value : Json} (other : ∀ raw, value ≠ .string raw) :
    textOf value = value.text := by
  cases value with
  | string raw => exact absurd rfl (other raw)
  | _ => rfl

/-- Templates can look the value up by the name. -/
structure LooksUp (values : Values) (name : String) (value : Json) : Prop where
  identifier : IsIdentifier name.toList
  notLeft : name ≠ "brl"
  notRight : name ≠ "brr"
  bound : values.get? name = some value

theorem LooksUp.render {values : Values} {name : String} {value : Json} (looksUp : LooksUp values name value) :
    (Placeholders.ofVariables values).render (Reference.token name) = .ok (Placeholders.textOf value) :=
  Placeholders.render_bound looksUp.identifier looksUp.notLeft looksUp.notRight looksUp.bound

/-- What becomes of a value on its way through texts. -/
structure Json.Kept (value : Json) : Prop where
  stored : ∀ target name rest outputs,
    Outputs.capability.invoke ⟨target, "setJson", some (.string name) :: some value :: rest⟩ outputs =
        (.ok none, outputs.set name (.string value.text)) ∧
      (outputs.set name (.string value.text)).values.get? name = some (.string value.text)
  parsed : Json.read value.text = .ok value
  filled : ∀ values name, LooksUp values name value → (∀ raw, value ≠ .string raw) →
    (Placeholders.ofVariables values).render (Reference.token name) = .ok value.text
  filledRaw : ∀ values name raw, LooksUp values name value → value = .string raw →
    (Placeholders.ofVariables values).render (Reference.token name) = .ok raw
  /-- No other value has the same text. -/
  alone : ∀ other : Json, other.Legible → value.text = other.text → value = other
  /-- No other value is filled in alike, strings apart. -/
  filledAlone : ∀ values name others label other, LooksUp values name value → LooksUp others label other →
    other.Legible → (∀ raw, value ≠ .string raw) → (∀ raw, other ≠ .string raw) →
    (Placeholders.ofVariables values).render (Reference.token name) =
      (Placeholders.ofVariables others).render (Reference.token label) → value = other
  unordered : ∀ members others, value = .object (SortedMap.ofList members) → (members.map Prod.fst).Nodup →
    others.Perm members → (Json.object (SortedMap.ofList others)).text = value.text

/-- Texts keep every value that can be read back, stored as an output or filled in for a variable. -/
theorem texts_keep_values {value : Json} (legible : value.Legible) : value.Kept where
  stored := by
    intro target name rest outputs
    refine ⟨Outputs.invoke_setJson rfl rfl outputs, ?_⟩
    rw [Outputs.set, Ascending.get?_insert, if_pos rfl]
  parsed := legible.read_text
  filled := by
    intro values name looksUp unquoted
    rw [looksUp.render, Placeholders.textOf_of_not_string unquoted]
  filledRaw := by
    intro values name raw looksUp quoted
    subst quoted
    exact looksUp.render
  alone other otherLegible same := legible.text_inj otherLegible same
  filledAlone := by
    intro values name others label other looksUp alsoLooksUp otherLegible unquoted alsoUnquoted same
    rw [looksUp.render, alsoLooksUp.render, Placeholders.textOf_of_not_string unquoted,
      Placeholders.textOf_of_not_string alsoUnquoted] at same
    exact legible.text_inj otherLegible (Except.ok.inj same)
  unordered := by
    intro members others whole distinct shuffled
    rw [whole, Json.object_ofList_perm distinct shuffled]

/-- Numbers from both ends, a string in which everything is escaped, and brackets around nothing. -/
def extremes : List Json :=
  [.integer 18446744073709551615 (by decide), .integer (-9223372036854775808) (by decide), .string "\"\\\x01",
    .array [], .object SortedMap.empty]

def nested (names : List String) : Json := .object (SortedMap.ofList (names.map fun name => (name, .array extremes)))

theorem nested_value_is_kept :
    (nested ["n"]).text =
        "\x7b\"n\":[18446744073709551615,-9223372036854775808,\"\\\"\\\\\\u0001\",[],\x7b\x7d]\x7d" ∧
      Json.read (nested ["z", ""]).text = .ok (nested ["z", ""]) ∧
      (Placeholders.ofVariables (SortedMap.ofList [("n", nested ["z", ""])])).render (Reference.token "n") =
        .ok (nested ["z", ""]).text ∧
      (nested ["", "z"]).text = (nested ["z", ""]).text := by
  have legible : (nested ["z", ""]).Legible := ⟨by decide +kernel, by decide +kernel⟩
  have kept := texts_keep_values legible
  have looksUp : LooksUp (SortedMap.ofList [("n", nested ["z", ""])]) "n" (nested ["z", ""]) :=
    ⟨by decide +kernel, by decide, by decide, rfl⟩
  exact ⟨by decide +kernel, kept.parsed, kept.filled _ _ looksUp nofun,
    kept.unordered _ _ rfl (by decide) (List.Perm.swap _ _ _)⟩

end ScriptedTask
