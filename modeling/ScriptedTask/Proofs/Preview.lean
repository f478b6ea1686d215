import ScriptedTask.Proofs.Substitution
import ScriptedTask.Proofs.Template.LookUps
import ScriptedTask.Worker.Preview

/-! Previews of tasks. The names that a preview calls unknown are those that rendering the inputs
looks up in vain, each of them once and in order. -/

namespace ScriptedTask

namespace Ascending

variable {α : Type}

theorem mem_keys_ofList {pairs : List (String × α)} {name : String} :
    name ∈ (SortedMap.ofList pairs).keys ↔ name ∈ pairs.map Prod.fst := by
  constructor
  · intro member
    obtain ⟨pair, listed, rfl⟩ := List.mem_map.mp member
    exact List.mem_map_of_mem (mem_of_mem_ofList listed)
  · intro member
    cases found : (SortedMap.ofList pairs).get? name with
    | some value => exact List.mem_map_of_mem ((mem_toList _).mpr found)
    | none =>
      rw [get?_ofList, List.lookup_eq_none_iff] at found
      obtain ⟨pair, given, rfl⟩ := List.mem_map.mp member
      exact absurd (found pair (List.mem_reverse.mpr given)) (by simp)

end Ascending

namespace Preview

/-- A name without a placeholder is neither bound nor fixed. -/
theorem get?_eq_none_iff {values : Values} {name : String} :
    (Placeholders.ofVariables values).get? name = none ↔ !values.contains name && !isFixed name := by
  rw [Placeholders.get?_ofVariables]
  by_cases right : name = "brr"
  · simp [isFixed, right]
  by_cases left : name = "brl"
  · simp [isFixed, left]
  · simp [isFixed, left, right, Ascending.contains]

theorem mem_namesIn {value : Json} {name : String} :
    name ∈ namesIn value ↔ ∃ text, value = .string text ∧ name ∈ referencedNames text := by
  cases value <;> simp [namesIn]

theorem mem_unknownNames {inputs : Inputs} {values : Values} {name : String} :
    name ∈ unknownNames inputs values ↔
      (∃ entry ∈ inputs.entries, ∃ text, entry.2.value = .string text ∧ name ∈ referencedNames text) ∧
        (Placeholders.ofVariables values).get? name = none := by
  simp only [unknownNames, Ascending.mem_keys_ofList, List.map_map, Function.comp_def, List.map_id', List.mem_filter,
    List.mem_flatMap, mem_namesIn, get?_eq_none_iff]

/-- Every string among inputs that can be substituted is rendered. -/
theorem lookedUp_of_substitute {inputs changed : Inputs} {values : Values}
    (substituted : inputs.substitute values = .ok changed) {entry : String × TaskInput} (member : entry ∈ inputs.entries)
    {text : String} (string : entry.2.value = .string text) :
    (Placeholders.ofVariables values).lookedUp text = referencedNames text := by
  have all : inputs.AllTemplates := (inputs.substitute_isOk_iff values).mp (by rw [substituted]; rfl)
  obtain ⟨result, rendered⟩ := (TaskInput.isTemplate_iff _).mp (all entry member) text string
  exact Placeholders.lookedUp_of_render rendered

section Runs

variable {σ : Type} {repository : Repository (StateM σ)} {task : Task} {world middle : σ}

theorem run_unloaded {failure : Failure}
    (called : (repository.load task.instanceId).run world = (.error failure, middle)) :
    (ofTask repository task).run world = (.error failure, middle) := by
  rw [ofTask, run_bind_of _ called]
  rfl

theorem run_loaded {values : Values} (called : (repository.load task.instanceId).run world = (.ok values, middle)) :
    (ofTask repository task).run world = (ofVariables task values, middle) := by
  rw [ofTask, run_bind_of _ called]
  rfl

theorem ofTask_ok {preview : Preview} {later : σ} (ran : (ofTask repository task).run world = (.ok preview, later)) :
    ∃ values changed, (repository.load task.instanceId).run world = (.ok values, later) ∧
      task.inputs.substitute values = .ok changed ∧ preview = ⟨changed.values, unknownNames task.inputs values⟩ := by
  rcases called : (repository.load task.instanceId).run world with ⟨failure | values, middle⟩
  · rw [run_unloaded called] at ran
    cases ran
  · rw [run_loaded called, ofVariables] at ran
    cases substituted : task.inputs.substitute values with
    | error problem =>
      rw [substituted] at ran
      cases ran
    | ok changed =>
      rw [substituted] at ran
      cases ran
      exact ⟨values, changed, rfl, substituted, rfl⟩

end Runs

/-- What a preview may call unknown, if these are the variables: every name that is looked up in vain
when the inputs are rendered, and no other. -/
structure Unknown (task : Task) (values : Values) (unknown : List String) : Prop where
  ascending : unknown.Pairwise (· < ·)
  inVain : ∀ name, name ∈ unknown ↔ ∃ entry ∈ task.inputs.entries, ∃ text, entry.2.value = .string text ∧
    name ∈ (Placeholders.ofVariables values).lookedUp text ∧ (Placeholders.ofVariables values).get? name = none

theorem unknown_of_ofTask {σ : Type} {repository : Repository (StateM σ)} {task : Task} {preview : Preview}
    {world later : σ} (ran : (ofTask repository task).run world = (.ok preview, later)) :
    ∃ values, (repository.load task.instanceId).run world = (.ok values, later) ∧
      Unknown task values preview.unknown := by
  obtain ⟨values, changed, loaded, substituted, rfl⟩ := ofTask_ok ran
  refine ⟨values, loaded, Ascending.pairwise_keys _, ?_⟩
  intro name
  rw [mem_unknownNames]
  constructor
  · rintro ⟨⟨entry, member, text, string, referred⟩, unbound⟩
    exact ⟨entry, member, text, string, by rwa [lookedUp_of_substitute substituted member string], unbound⟩
  · rintro ⟨entry, member, text, string, looked, unbound⟩
    exact ⟨⟨entry, member, text, string, by rwa [← lookedUp_of_substitute substituted member string]⟩, unbound⟩

/-- The names that a text refers to are those that rendering it looks up, all of them if it succeeds
and the first ones if not. So no other variable shows in the result, and a preview calls those names
unknown that are looked up in vain. -/
theorem referenced_names_are_looked_up :
    (∀ (placeholders : Placeholders) (text : String),
      (placeholders.renderNoting text).1 = placeholders.render text ∧
      placeholders.lookedUp text <+: referencedNames text ∧
      ∀ result, placeholders.render text = .ok result → placeholders.lookedUp text = referencedNames text) ∧
    (∀ (left right : Values) (text : String),
      (∀ name ∈ referencedNames text, name ≠ "brl" → name ≠ "brr" → left.get? name = right.get? name) →
        (Placeholders.ofVariables left).render text = (Placeholders.ofVariables right).render text) ∧
    ∀ (σ : Type) (repository : Repository (StateM σ)) (task : Task) (world later : σ) (preview : Preview),
      (ofTask repository task).run world = (.ok preview, later) →
        ∃ values, (repository.load task.instanceId).run world = (.ok values, later) ∧
          Unknown task values preview.unknown := by
  refine ⟨?_, fun _ _ _ => Placeholders.render_ofVariables_congr, fun _ _ _ _ _ _ => unknown_of_ofTask⟩
  intro placeholders text
  refine ⟨?_, placeholders.lookedUp_prefix text, fun _ => Placeholders.lookedUp_of_render⟩
  rw [placeholders.renderNoting_eq]

/-- A lamp with a name, and a text that asks for the name and for something that is not there. -/
def lamp : Values := SortedMap.ofList [("name", .string "lamp")]

def label : String := "\x7b\x7b.name\x7d\x7d \x7b\x7b.ghost\x7d\x7d \x7b\x7b.brl\x7d\x7d"

def labelled : Task where
  inputs := { entries := [("label", ⟨.string label, none⟩)], distinct := by decide }

/-- A repository that holds the same variables for every instance and keeps no change. -/
def steady (values : Values) : Repository (StateM Unit) where
  load _ := return .ok values
  store _ _ := return .ok ()

theorem ghost_is_unknown :
    (Placeholders.ofVariables lamp).lookedUp label = ["name", "ghost", "brl"] ∧
    (Placeholders.ofVariables lamp).render label = (Placeholders.ofVariables (lamp.insert "other" .null)).render label ∧
    ∃ preview later, (ofTask (steady lamp) labelled).run () = (.ok preview, later) ∧
      ∃ values, ((steady lamp).load labelled.instanceId).run () = (.ok values, later) ∧
        Unknown labelled values preview.unknown := by
  have rendered : ((Placeholders.ofVariables lamp).render label).isOk = true := by decide +kernel
  have referred : referencedNames label = ["name", "ghost", "brl"] := by decide +kernel
  have previewed : ((ofTask (steady lamp) labelled).run ()).1.isOk = true := by decide +kernel
  refine ⟨?_, ?_, ?_⟩
  · cases result : (Placeholders.ofVariables lamp).render label with
    | error problem =>
      rw [result] at rendered
      cases rendered
    | ok text => rw [(referenced_names_are_looked_up.1 _ label).2.2 text result, referred]
  · apply referenced_names_are_looked_up.2.1
    intro name member _ _
    have other : name ≠ "other" := by
      rintro rfl
      rw [referred] at member
      exact absurd member (by decide)
    rw [Ascending.get?_insert, if_neg other]
  · rcases ran : (ofTask (steady lamp) labelled).run () with ⟨problem | preview, later⟩
    · rw [ran] at previewed
      cases previewed
    · exact ⟨preview, later, rfl, referenced_names_are_looked_up.2.2 _ _ _ _ _ _ ran⟩

end Preview
end ScriptedTask
