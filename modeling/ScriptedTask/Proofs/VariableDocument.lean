import ScriptedTask.Proofs.Json.Parts
import ScriptedTask.Proofs.Wire.Formats
import ScriptedTask.Storage.Variables

/-! Documents of variables in their texts. A document stands two levels above the values in it, so
values may nest two levels less in it than they may by themselves. -/

namespace ScriptedTask.VariableFile

open Json Wire

/-- How deep a value may nest in a document. -/
def valueLimit : Nat := nestingLimit - 2

def EachValue (test : Json → Prop) (values : Values) : Prop := ∀ name value, values.get? name = some value → test value

def Shallow : Values → Prop := EachValue fun value => value.depth ≤ valueLimit

def Integral : Values → Prop := EachValue fun value => value.isIntegral = true

/-- The floats in the values are read back as they were. -/
def Precise : Values → Prop := EachValue Exact

/-- The same holds of the variables of every instance. -/
def Everywhere (holds : Values → Prop) (document : Document) : Prop :=
  ∀ instanceId values, document.get? instanceId = some values → holds values

theorem everywhere_empty {holds : Values → Prop} : Everywhere holds SortedMap.empty := by
  intro instanceId values held
  rw [Ascending.get?_empty] at held
  cases held

section Changed

variable {test : Json → Prop} {base upper : Values}

theorem EachValue.overlay (below : EachValue test base) (above : EachValue test upper) : EachValue test (base.overlay upper) := by
  intro name value held
  rw [Ascending.get?_overlay, Option.or_eq_some_iff] at held
  rcases held with held | ⟨-, held⟩
  · exact above name value held
  · exact below name value held

theorem EachValue.of_overlay (each : EachValue test (base.overlay upper)) : EachValue test upper := by
  intro name value held
  apply each name value
  rw [Ascending.get?_overlay, held, Option.some_or]

theorem eachValue_variablesOf {document : Document} (each : Everywhere (EachValue test) document) (instanceId : String) :
    EachValue test (variablesOf document instanceId) := by
  rw [variablesOf]
  cases held : document.get? instanceId with
  | none => exact fun _ _ missing => nomatch missing
  | some values => exact each instanceId values held

theorem everywhere_merge {document : Document} (each : Everywhere (EachValue test) document) (instanceId : String) :
    Everywhere (EachValue test) (merge document instanceId upper) ↔ EachValue test upper := by
  constructor
  · intro merged
    have held : (merge document instanceId upper).get? instanceId = some ((variablesOf document instanceId).overlay upper) := by
      rw [merge, Ascending.get?_insert, if_pos rfl]
    exact (merged instanceId _ held).of_overlay
  · intro above other values held
    rw [merge, Ascending.get?_insert] at held
    split at held
    · cases held
      exact (eachValue_variablesOf each instanceId).overlay above
    · exact each other values held

end Changed

theorem Integral.precise {values : Values} (integral : Integral values) : Precise values :=
  fun name value held => exact_of_isIntegral (integral name value held)

/-- Values without floats that a document can hold. -/
def storable (values : Values) : Bool :=
  values.toList.all fun entry => entry.2.isIntegral && decide (entry.2.depth ≤ valueLimit)

theorem storable_iff {values : Values} : storable values = true ↔ Integral values ∧ Shallow values := by
  simp only [storable, List.all_eq_true, Bool.and_eq_true, decide_eq_true_eq, Prod.forall, Ascending.mem_toList, Integral,
    Shallow, EachValue, forall_and]

theorem exact_values {values : Values} : (Json.object values).Exact ↔ Precise values := by
  simp only [exact_object, Precise, EachValue, Prod.forall, Ascending.mem_toList]

theorem exact_encode {document : Document} : (encode document).Exact ↔ Everywhere Precise document := by
  simp only [encode, exact_object, Everywhere, ← exact_values, Ascending.toList_mapValues,
    List.forall_mem_map, Prod.forall, Ascending.mem_toList]

section Written

variable {blanks : List Char} {values : Values} (blank : AllBlank blanks) (level : Nat) (precise : Precise values)

include blank precise

theorem values?_written (shallow : Shallow values) :
    jsonFormat.values? ⟨valueLimit + 1, blanks ++ indented level (.object values)⟩ = some values := by
  obtain ⟨gap, blankGap, parts⟩ :=
    Part.members?_written valueLimit layout_indented blank level (exact_values.mpr precise)
  let place := fun value => (⟨valueLimit, gap ++ indented (level + 1) value⟩ : Part)
  have each : ∀ entry ∈ values.toList, jsonFormat.value? (place entry.2) = some (id entry.2) := by
    intro entry member
    have held := values.mem_toList.mp member
    exact Part.value?_written valueLimit layout_indented blankGap (level + 1) (precise _ _ held) (shallow _ _ held)
  rw [Format.values?, Format.entries?_some place id parts each]
  simp only [id, List.map_id', Option.map_some, Ascending.ofList_toList]

end Written

variable {document : Document}

/-- The instances of a document, each with the part in which its variables stand. -/
theorem instances_written (precise : Everywhere Precise document) : ∃ part gap, AllBlank gap ∧
    Part.ofText? (encode document).prettyText = some part ∧
    jsonFormat.members? part =
      some (document.toList.map fun entry => (entry.1, ⟨valueLimit + 1, gap ++ indented 1 (.object entry.2)⟩)) := by
  obtain ⟨gap, blankGap, parts⟩ := Part.members?_written (valueLimit + 1) layout_indented
    allBlank_nil 0 (exact_encode.mpr precise)
  refine ⟨_, gap, blankGap, Part.ofText?_written layout_indented 0 (exact_encode.mpr precise), ?_⟩
  rw [Ascending.toList_mapValues, List.map_map] at parts
  exact parts

theorem decode?_encode (precise : Everywhere Precise document) (shallow : Everywhere Shallow document) :
    decode? (encode document).prettyText = some document := by
  obtain ⟨part, gap, blankGap, whole, parts⟩ := instances_written precise
  let place := fun values => (⟨valueLimit + 1, gap ++ indented 1 (.object values)⟩ : Part)
  have each : ∀ entry ∈ document.toList, jsonFormat.values? (place entry.2) = some (id entry.2) := by
    intro entry member
    have held := document.mem_toList.mp member
    exact values?_written blankGap 1 (precise _ _ held) (shallow _ _ held)
  rw [decode?, whole, Option.bind_eq_bind, Option.bind_some, Format.entries?_some place id parts each]
  simp only [id, List.map_id', Option.map_some, Ascending.ofList_toList]

theorem shallow_of_values? {part : Json.Part} {values : Values} (inside : part.depth = valueLimit + 1)
    (found : jsonFormat.values? part = some values) : Shallow values := by
  obtain ⟨entries, listed, rfl⟩ := Option.map_eq_some_iff.mp found
  obtain ⟨members, parts, sources⟩ := Format.entries?_from listed
  intro name value held
  have present := Ascending.mem_of_mem_ofList ((SortedMap.ofList entries).mem_toList.mpr held)
  obtain ⟨member, inPart, read⟩ := sources _ present
  have further := Part.members?_depth parts member inPart
  have shallow : value.depth ≤ member.2.depth := Part.value?_depth read
  omega

theorem shallow_of_decode? {text : String} (decoded : decode? text = some document) : Everywhere Shallow document := by
  simp only [decode?, Option.bind_eq_bind, Option.bind_eq_some_iff] at decoded
  obtain ⟨part, whole, decoded⟩ := decoded
  obtain ⟨entries, listed, rfl⟩ := Option.map_eq_some_iff.mp decoded
  obtain ⟨members, parts, sources⟩ := Format.entries?_from listed
  intro instanceId values held
  have present := Ascending.mem_of_mem_ofList ((SortedMap.ofList entries).mem_toList.mpr held)
  obtain ⟨member, inPart, read⟩ := sources _ present
  have further := Part.members?_depth parts member inPart
  have outermost := Part.ofText?_depth whole
  refine shallow_of_values? ?_ read
  rw [outermost] at further
  exact Nat.succ.inj further

end ScriptedTask.VariableFile
