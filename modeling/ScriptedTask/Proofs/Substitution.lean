import ScriptedTask.Proofs.Fragments
import ScriptedTask.Proofs.Outcomes
import ScriptedTask.Task.Substitution

/-! Substitution input by input. Whether it succeeds depends on the inputs alone, and what becomes
of an input depends on no other input. -/

namespace ScriptedTask

namespace Inputs

variable {ε : Type}

/-- A change of one input as a change of its entry. -/
def changeEntry (step : String → TaskInput → Except ε TaskInput) (entry : String × TaskInput) :
    Except ε (String × TaskInput) :=
  (step entry.1 entry.2).map fun changed => (entry.1, changed)

theorem changeEntries_eq_mapM (step : String → TaskInput → Except ε TaskInput) (entries : List (String × TaskInput)) :
    (changeEntries step entries).map Subtype.val = entries.mapM (changeEntry step) := by
  induction entries with
  | nil => rfl
  | cons entry rest ih =>
    obtain ⟨name, input⟩ := entry
    rw [List.mapM_cons, ← ih]
    simp only [changeEntries, changeEntry]
    cases step name input with
    | error problem => rfl
    | ok changed => cases changeEntries step rest <;> rfl

theorem change_eq_mapM (inputs : Inputs) (step : String → TaskInput → Except ε TaskInput) :
    (inputs.change step).map entries = inputs.entries.mapM (changeEntry step) := by
  rw [← changeEntries_eq_mapM, change]
  cases changeEntries step inputs.entries <;> rfl

/-- A change of inputs restricts to the inputs whose names pass a test. -/
theorem filter_changed {step : String → TaskInput → Except ε TaskInput} {entries changed : List (String × TaskInput)}
    (keep : String → Bool) (done : entries.mapM (changeEntry step) = .ok changed) :
    (entries.filter fun entry => keep entry.1).mapM (changeEntry step) =
      .ok (changed.filter fun entry => keep entry.1) := by
  induction entries generalizing changed with
  | nil =>
    cases done
    rfl
  | cons entry rest ih =>
    obtain ⟨name, input⟩ := entry
    rw [List.mapM_cons, bind_ok] at done
    obtain ⟨replaced, first, done⟩ := done
    obtain ⟨later, others, same⟩ := bind_ok.mp done
    cases same
    obtain ⟨input, -, rfl⟩ := map_ok first
    cases kept : keep name with
    | true =>
      rw [List.filter_cons_of_pos (by exact kept), List.filter_cons_of_pos (by exact kept), List.mapM_cons, first,
        ih others]
      rfl
    | false =>
      rw [List.filter_cons_of_neg (by simp [kept]), List.filter_cons_of_neg (by simp [kept]), ih others]

theorem mapM_isOk_iff (step : String → TaskInput → Except ε TaskInput) (entries : List (String × TaskInput)) :
    (entries.mapM (changeEntry step)).isOk = true ↔ ∀ entry ∈ entries, (step entry.1 entry.2).isOk = true := by
  induction entries with
  | nil => exact iff_of_true rfl (by simp)
  | cons entry rest ih =>
    rw [List.mapM_cons, List.forall_mem_cons]
    refine Iff.trans ?_ (and_congr_right' ih)
    simp only [changeEntry]
    cases step entry.1 entry.2 with
    | error problem => exact iff_of_false Bool.false_ne_true fun both => Bool.false_ne_true both.1
    | ok changed => cases rest.mapM (changeEntry step) <;> simp [Except.isOk, Except.toBool] <;> rfl

theorem change_isOk_iff (inputs : Inputs) (step : String → TaskInput → Except ε TaskInput) :
    (inputs.change step).isOk = true ↔ ∀ entry ∈ inputs.entries, (step entry.1 entry.2).isOk = true := by
  rw [← mapM_isOk_iff, ← change_eq_mapM]
  cases inputs.change step <;> rfl

end Inputs

/-- The input is no string, or a string that is a template. -/
def TaskInput.isTemplate (input : TaskInput) : Bool :=
  match input.value with
  | .string text => (Template.parse text).isOk
  | _ => true

/-- Nothing in the inputs stops a substitution, whatever the variables are. -/
def Inputs.AllTemplates (inputs : Inputs) : Prop := ∀ entry ∈ inputs.entries, entry.2.isTemplate = true

instance (inputs : Inputs) : Decidable inputs.AllTemplates :=
  inferInstanceAs (Decidable (∀ entry ∈ inputs.entries, entry.2.isTemplate = true))

theorem substituteInput_isOk (placeholders : Placeholders) (name : String) (input : TaskInput) :
    (substituteInput placeholders name input).isOk = input.isTemplate := by
  obtain ⟨value, typeTag⟩ := input
  cases value with
  | string text =>
    simp only [substituteInput, Placeholders.render, TaskInput.isTemplate]
    cases Template.parse text <;> rfl
  | _ => rfl

theorem TaskInput.isTemplate_iff (placeholders : Placeholders) {input : TaskInput} :
    input.isTemplate = true ↔ ∀ text, input.value = .string text → ∃ result, placeholders.render text = .ok result := by
  obtain ⟨value, typeTag⟩ := input
  cases value with
  | string text =>
    have parsed : (placeholders.render text).isOk = (Template.parse text).isOk := by
      rw [Placeholders.render]
      cases Template.parse text <;> rfl
    simp only [isTemplate, ← parsed, isOk_iff]
    constructor
    · intro rendered other same
      cases same
      exact rendered
    · intro each
      exact each text rfl
  | _ => exact iff_of_true rfl nofun

/-- What becomes of an input. Its name and its type tag stay; a string is rendered, and any other value stays. -/
inductive Rendered (placeholders : Placeholders) : String × TaskInput → String × TaskInput → Prop where
  | text {name text result : String} {typeTag : Option String} (rendered : placeholders.render text = .ok result) :
      Rendered placeholders (name, ⟨.string text, typeTag⟩) (name, ⟨.string result, typeTag⟩)
  | other {name : String} {input : TaskInput} (plain : ∀ text, input.value ≠ .string text) :
      Rendered placeholders (name, input) (name, input)

section Entries

variable {placeholders : Placeholders} {entry : String × TaskInput}

theorem changeEntry_ok_iff {changed : String × TaskInput} :
    Inputs.changeEntry (substituteInput placeholders) entry = .ok changed ↔ Rendered placeholders entry changed := by
  obtain ⟨name, value, typeTag⟩ := entry
  constructor
  · intro done
    obtain ⟨input, replaced, rfl⟩ := map_ok done
    cases value with
    | string text =>
      simp only [substituteInput] at replaced
      cases rendered : placeholders.render text with
      | ok result =>
        rw [rendered] at replaced
        cases replaced
        exact .text rendered
      | error problem =>
        rw [rendered] at replaced
        cases replaced
    | _ =>
      cases replaced
      exact .other nofun
  · intro rendered
    cases rendered with
    | text rendered => simp [Inputs.changeEntry, substituteInput, rendered, Except.map]
    | other plain =>
      cases value with
      | string text => exact absurd rfl (plain text)
      | _ => rfl

theorem changeEntry_error_iff {problem : SubstitutionError} :
    Inputs.changeEntry (substituteInput placeholders) entry = .error problem ↔
      ∃ typeTag text, entry = (problem.input, ⟨.string text, typeTag⟩) ∧
        placeholders.render text = .error problem.source := by
  obtain ⟨name, value, typeTag⟩ := entry
  constructor
  · intro failed
    have stopped := map_error.mp failed
    cases value with
    | string text =>
      simp only [substituteInput] at stopped
      cases rendered : placeholders.render text with
      | ok result =>
        rw [rendered] at stopped
        cases stopped
      | error source =>
        rw [rendered] at stopped
        cases stopped
        exact ⟨typeTag, text, rfl, rendered⟩
    | _ => cases stopped
  · intro ⟨_, text, same, failed⟩
    cases same
    simp [Inputs.changeEntry, substituteInput, failed, Except.map]

end Entries

namespace Inputs

theorem substitute_eq_mapM (inputs : Inputs) (values : Values) :
    (inputs.substitute values).map entries =
      inputs.entries.mapM (changeEntry (substituteInput (Placeholders.ofVariables values))) :=
  inputs.change_eq_mapM _

theorem entries_injective : Function.Injective entries := by
  intro left right same
  cases left
  cases same
  rfl

theorem substitute_ok_iff {inputs result : Inputs} {values : Values} :
    inputs.substitute values = .ok result ↔
      List.Forall₂ (Rendered (Placeholders.ofVariables values)) inputs.entries result.entries := by
  have changed := inputs.substitute_eq_mapM values
  constructor
  · intro done
    rw [done] at changed
    exact (mapM_ok_iff.mp changed.symm).imp fun _ _ => changeEntry_ok_iff.mp
  · intro each
    rw [mapM_ok_iff.mpr (each.imp fun _ _ => changeEntry_ok_iff.mpr)] at changed
    obtain ⟨found, done, same⟩ := map_ok changed
    rw [done, entries_injective same]

theorem substitute_error_iff {inputs : Inputs} {values : Values} {problem : SubstitutionError} :
    inputs.substitute values = .error problem ↔ ∃ before typeTag text after,
      inputs.entries = before ++ (problem.input, ⟨.string text, typeTag⟩) :: after ∧
      (∀ earlier ∈ before, ∃ changed, Rendered (Placeholders.ofVariables values) earlier changed) ∧
      (Placeholders.ofVariables values).render text = .error problem.source := by
  rw [← map_error (f := entries), substitute_eq_mapM, mapM_error_iff]
  simp only [isOk_iff, changeEntry_ok_iff, changeEntry_error_iff]
  constructor
  · intro ⟨before, entry, after, whole, passed, typeTag, text, same, failed⟩
    exact ⟨before, typeTag, text, after, same ▸ whole, passed, failed⟩
  · intro ⟨before, typeTag, text, after, whole, passed, failed⟩
    exact ⟨before, _, after, whole, passed, typeTag, text, rfl, failed⟩

theorem substitute_isOk_iff (inputs : Inputs) (values : Values) :
    (inputs.substitute values).isOk = true ↔ inputs.AllTemplates := by
  simp only [substitute, change_isOk_iff, substituteInput_isOk, AllTemplates]

theorem substitute_cases (inputs : Inputs) (values : Values) :
    inputs.AllTemplates ∧ (∃ substituted, inputs.substitute values = .ok substituted) ∨
      ¬inputs.AllTemplates ∧ ∃ problem, inputs.substitute values = .error problem := by
  rw [← substitute_isOk_iff inputs values]
  cases inputs.substitute values with
  | ok substituted => exact .inl ⟨rfl, substituted, rfl⟩
  | error problem => exact .inr ⟨Bool.false_ne_true, problem, rfl⟩

/-- What becomes of the inputs without reserved names does not depend on the others. -/
theorem unreserved_substitute {left right first second : Inputs} {values : Values}
    (same : left.unreserved = right.unreserved) (one : left.substitute values = .ok first)
    (other : right.substitute values = .ok second) : first.unreserved = second.unreserved := by
  have restricted : ∀ {inputs substituted : Inputs}, inputs.substitute values = .ok substituted →
      inputs.unreserved.mapM (changeEntry (substituteInput (Placeholders.ofVariables values))) =
        .ok substituted.unreserved := by
    intro inputs substituted done
    apply filter_changed (fun name => !Fragment.isReserved name)
    rw [← change_eq_mapM]
    rw [substitute] at done
    rw [done]
    rfl
  have both := restricted one
  rw [same, restricted other, Except.ok.injEq] at both
  exact both.symm

/-- Inputs are rendered one by one. If all strings among them render, each is replaced where it stands and
nothing else changes. If not, the first that does not render is named with its own problem, whatever comes
after it. -/
theorem inputs_are_rendered_one_by_one (inputs : Inputs) (values : Values) :
    ((∃ result, inputs.substitute values = .ok result) ↔
      ∀ entry ∈ inputs.entries, ∀ text, entry.2.value = .string text →
        ∃ result, (Placeholders.ofVariables values).render text = .ok result) ∧
    (∀ result, inputs.substitute values = .ok result ↔
      List.Forall₂ (Rendered (Placeholders.ofVariables values)) inputs.entries result.entries) ∧
    ∀ problem, inputs.substitute values = .error problem ↔ ∃ before typeTag text after,
      inputs.entries = before ++ (problem.input, ⟨.string text, typeTag⟩) :: after ∧
      (∀ earlier ∈ before, ∃ changed, Rendered (Placeholders.ofVariables values) earlier changed) ∧
      (Placeholders.ofVariables values).render text = .error problem.source := by
  refine ⟨?_, fun _ => substitute_ok_iff, fun _ => substitute_error_iff⟩
  rw [← isOk_iff, substitute_isOk_iff]
  apply forall₂_congr
  intro entry _
  exact TaskInput.isTemplate_iff (Placeholders.ofVariables values)

end Inputs
end ScriptedTask
