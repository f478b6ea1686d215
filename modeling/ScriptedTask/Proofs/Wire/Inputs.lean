import ScriptedTask.Proofs.Overlay
import ScriptedTask.Proofs.Wire.Formats
import ScriptedTask.Wire.Task
import Mathlib.Data.List.Induction

/-! The order of inputs. They stand in the order in which their names first came, each with the
input that came last under its name. -/

namespace ScriptedTask

theorem lookup_cons_ite {α : Type} (name wanted : String) (held : α) (rest : List (String × α)) :
    ((name, held) :: rest).lookup wanted = if wanted = name then some held else rest.lookup wanted := by
  by_cases same : wanted = name
  · rw [if_pos same, same, List.lookup_cons_self]
  · rw [if_neg same, List.lookup_cons, beq_false_of_ne same]

namespace Inputs

variable {name : String} {input : TaskInput} {entries : List (String × TaskInput)}

theorem put_fresh (fresh : name ∉ entries.map Prod.fst) : put name input entries = entries ++ [(name, input)] := by
  induction entries with
  | nil => rfl
  | cons entry rest ih =>
    rw [List.map_cons, List.mem_cons, not_or] at fresh
    rw [put, if_neg (Ne.symm fresh.1), ih fresh.2, List.cons_append]

theorem lookup_put (wanted : String) :
    (put name input entries).lookup wanted = if wanted = name then some input else entries.lookup wanted := by
  induction entries with
  | nil => exact lookup_cons_ite name wanted input []
  | cons entry rest ih =>
    obtain ⟨other, old⟩ := entry
    rw [put]
    by_cases here : other = name
    · subst here
      rw [if_pos rfl, lookup_cons_ite, lookup_cons_ite]
      split <;> rfl
    · rw [if_neg here, lookup_cons_ite, lookup_cons_ite, ih]
      split
      next same => rw [if_neg (same ▸ here)]
      · rfl

/-- The last of the given entries is put in last. -/
theorem entries_ofList_concat (front : List (String × TaskInput)) (last : String × TaskInput) :
    (ofList (front ++ [last])).entries = put last.1 last.2 (ofList front).entries := by
  rw [ofList, List.foldl_append]
  rfl

theorem names_ofList (given : List (String × TaskInput)) :
    (ofList given).entries.map Prod.fst = (given.map Prod.fst).eraseDups := by
  induction given using List.reverseRecOn with
  | nil => rfl
  | append_singleton front last ih =>
    rw [entries_ofList_concat, names_put, ih, List.map_append, List.eraseDups_append]
    split
    next known =>
      rw [List.mem_eraseDups] at known
      simp [List.removeAll, known]
    next fresh =>
      rw [List.mem_eraseDups] at fresh
      simp [List.removeAll, fresh, List.eraseDups_cons]

theorem lookup_ofList (given : List (String × TaskInput)) (wanted : String) :
    (ofList given).entries.lookup wanted = given.reverse.lookup wanted := by
  induction given using List.reverseRecOn with
  | nil => rfl
  | append_singleton front last ih =>
    rw [entries_ofList_concat, lookup_put, ih, List.reverse_append, List.reverse_singleton, List.singleton_append,
      lookup_cons_ite]

theorem mem_of_mem_ofList {given : List (String × TaskInput)} {entry : String × TaskInput}
    (member : entry ∈ (ofList given).entries) : entry ∈ given := by
  obtain ⟨name, input⟩ := entry
  rw [mem_iff_lookup (ofList given).distinct, lookup_ofList, List.lookup_eq_some_iff] at member
  obtain ⟨before, after, whole, -⟩ := member
  rw [← List.mem_reverse, whole]
  exact List.mem_append_right before List.mem_cons_self

/-- Entries whose names are distinct stay as they are. -/
theorem entries_ofList (distinct : (entries.map Prod.fst).Nodup) : (ofList entries).entries = entries := by
  induction entries using List.reverseRecOn with
  | nil => rfl
  | append_singleton front last ih =>
    rw [List.map_append, List.nodup_append] at distinct
    have fresh : last.1 ∉ front.map Prod.fst := fun known => distinct.2.2 _ known _ (by simp) rfl
    rw [entries_ofList_concat, ih distinct.1, put_fresh fresh]

theorem ofList_entries (inputs : Inputs) : ofList inputs.entries = inputs := by
  have same := entries_ofList inputs.distinct
  cases whole : ofList inputs.entries
  rw [whole] at same
  cases same
  rfl

end Inputs

open Wire

/-- The members that were written as the inputs of a task, in the order of the text. -/
def Task.writtenInputs? {α : Type} (format : Format α) (part : α) : Option (List (String × α)) := do
  let fields ← format.fields? Task.fieldNames part
  fields.orElse? "variables" [] format.members?

/-- The inputs keep the order of their names in the text; of a repeated name the first place and
the last input count. -/
structure Inputs.InOrder {α : Type} (format : Format α) (written : List (String × α)) (inputs : Inputs) : Prop where
  names : inputs.entries.map Prod.fst = (written.map Prod.fst).eraseDups
  last : ∀ name, inputs.entries.lookup name = written.reverse.lookup name >>= TaskInput.decode? format

variable {α : Type} {format : Format α} {part : α}

theorem lookup_of_forall₂ {β γ : Type} {decode? : β → Option γ} {members : List (String × β)} {entries : List (String × γ)}
    (related : List.Forall₂ (fun member entry => entry.1 = member.1 ∧ decode? member.2 = some entry.2) members entries)
    (name : String) : entries.lookup name = members.lookup name >>= decode? := by
  induction related with
  | nil => rfl
  | @cons member entry _ _ same _ ih =>
    obtain ⟨known, content⟩ := member
    obtain ⟨_, input⟩ := entry
    obtain ⟨rfl, decoded⟩ := same
    rw [lookup_cons_ite, lookup_cons_ite, ih]
    split
    · exact decoded.symm
    · rfl

theorem Inputs.inOrder_decode? {inputs : Inputs} (decoded : Inputs.decode? format part = some inputs) :
    ∃ written, format.members? part = some written ∧ inputs.InOrder format written := by
  obtain ⟨entries, read, rfl⟩ := Option.map_eq_some_iff.mp decoded
  obtain ⟨written, listed, related⟩ := Format.entries?_iff.mp read
  refine ⟨written, listed, ?_, ?_⟩
  · have names : entries.map Prod.fst = written.map Prod.fst := by
      rw [← List.forall₂_eq_eq_eq, List.forall₂_map_left_iff, List.forall₂_map_right_iff]
      exact related.flip.imp fun _ _ same => same.1
    rw [names_ofList, names]
  · intro name
    rw [lookup_ofList]
    exact lookup_of_forall₂ (List.rel_reverse related) name

theorem Task.inputs_inOrder {task : Task} (decoded : Task.decode? format part = some task) :
    ∃ written, Task.writtenInputs? format part = some written ∧ task.inputs.InOrder format written := by
  simp only [Task.decode?, Option.bind_eq_bind, Option.bind_eq_some_iff] at decoded
  obtain ⟨fields, read, id, -, instanceId, -, inputs, found, ⟨⟩⟩ := decoded
  unfold Fields.orElse? at found
  split at found
  next content looked =>
    obtain ⟨written, listed, inOrder⟩ := Inputs.inOrder_decode? found
    refine ⟨written, ?_, inOrder⟩
    rw [writtenInputs?, read, Option.bind_eq_bind, Option.bind_some, Fields.orElse?, looked]
    exact listed
  next missing =>
    cases found
    refine ⟨[], ?_, rfl, fun _ => rfl⟩
    rw [writtenInputs?, read, Option.bind_eq_bind, Option.bind_some, Fields.orElse?, missing]

end ScriptedTask
