import ScriptedTask.Proofs.Outcomes
import ScriptedTask.Wire.Format

/-! What is read of mappings and records, in any format. -/

namespace ScriptedTask.Wire

theorem nodup_filter_iff {α : Type} [BEq α] [LawfulBEq α] {keep : α → Bool} {items : List α} :
    (items.filter keep).Nodup ↔ ∀ item, keep item = true → items.count item ≤ 1 := by
  rw [List.nodup_iff_count]
  constructor
  · intro distinct item kept
    rw [← List.count_filter kept]
    exact distinct item
  · intro once item
    by_cases kept : keep item = true
    · rw [List.count_filter kept]
      exact once item kept
    · rw [List.count_eq_zero.mpr fun member => kept (List.of_mem_filter member)]
      exact Nat.zero_le 1

variable {α β γ : Type} {format : Format α} {decode? : α → Option β} {part : α}

namespace Format

section Entries

variable {pairs : List (String × γ)}

theorem entries?_some (place : γ → α) (read : γ → β)
    (found : format.members? part = some (pairs.map fun pair => (pair.1, place pair.2)))
    (each : ∀ pair ∈ pairs, decode? (place pair.2) = some (read pair.2)) :
    format.entries? decode? part = some (pairs.map fun pair => (pair.1, read pair.2)) := by
  simp only [Format.entries?, found, Option.bind_eq_bind, Option.bind_some, List.mapM_map]
  apply mapM_some
  intro pair member
  simp [each pair member]

variable {entries : List (String × β)}

theorem entries?_iff : format.entries? decode? part = some entries ↔ ∃ members, format.members? part = some members ∧
    List.Forall₂ (fun member entry => entry.1 = member.1 ∧ decode? member.2 = some entry.2) members entries := by
  have step : ∀ (member : String × α) (entry : String × β),
      (∃ found, decode? member.2 = some found ∧ (pure (member.1, found) : Option (String × β)) = some entry) ↔
        entry.1 = member.1 ∧ decode? member.2 = some entry.2 := by
    intro member entry
    constructor
    · rintro ⟨found, decoded, ⟨⟩⟩
      exact ⟨rfl, decoded⟩
    · intro ⟨same, decoded⟩
      exact ⟨entry.2, decoded, by rw [← same]; rfl⟩
  simp only [Format.entries?, Option.bind_eq_bind, Option.bind_eq_some_iff, mapM_some_iff, step]

theorem entries?_from (found : format.entries? decode? part = some entries) :
    ∃ members, format.members? part = some members ∧
      ∀ entry ∈ entries, ∃ member ∈ members, decode? member.2 = some entry.2 := by
  obtain ⟨members, listed, related⟩ := entries?_iff.mp found
  refine ⟨members, listed, ?_⟩
  intro entry present
  obtain ⟨member, held, -, same⟩ := exists_of_forall₂ related present
  exact ⟨member, held, same⟩

end Entries

section Fields

variable {names : List String} {fields : Fields α}

/-- A record in which every member is a field and no name occurs twice. -/
theorem fields?_some (found : format.members? part = some fields) (known : ∀ field ∈ fields, field.1 ∈ names)
    (distinct : (fields.map Prod.fst).Nodup) : format.fields? names part = some fields := by
  have all : fields.filter (fun member => names.contains member.1) = fields := by
    rw [List.filter_eq_self]
    intro field member
    simpa using known field member
  simp only [fields?, found, all, if_pos distinct]

/-- The fields of a record are its members that are fields, each once, or those that its items stand for. -/
theorem fields?_iff :
    format.fields? names part = some fields ↔
      (∃ members, format.members? part = some members ∧
        (∀ name ∈ names, (members.map Prod.fst).count name ≤ 1) ∧
        members.filter (fun member => names.contains member.1) = fields) ∨
      format.members? part = none ∧ ∃ items, format.items? part = some items ∧ items.length ≤ names.length ∧
        names.zip items = fields := by
  unfold fields?
  cases format.members? part with
  | some members =>
    have distinct : ((members.filter fun member => names.contains member.1).map Prod.fst).Nodup ↔
        ∀ name ∈ names, (members.map Prod.fst).count name ≤ 1 := by
      have same : (members.map Prod.fst).filter names.contains =
          (members.filter fun member => names.contains member.1).map Prod.fst := List.filter_map
      rw [← same, nodup_filter_iff]
      simp only [List.contains_iff_mem]
    simp only [Option.ite_none_right_eq_some, distinct, Option.some.injEq, exists_eq_left', reduceCtorEq, false_and,
      or_false]
  | none =>
    simp only [Option.bind_eq_bind, Option.bind_eq_some_iff, Option.ite_none_right_eq_some, Option.some.injEq,
      reduceCtorEq, false_and, exists_false, false_or, true_and]

/-- A field is a member of the record or one of its items. -/
theorem fields?_from (found : format.fields? names part = some fields) :
    (∃ members, format.members? part = some members ∧ ∀ field ∈ fields, field ∈ members) ∨
      ∃ items, format.items? part = some items ∧ ∀ field ∈ fields, field.2 ∈ items := by
  rcases fields?_iff.mp found with ⟨members, listed, -, rfl⟩ | ⟨-, items, listed, -, rfl⟩
  · exact .inl ⟨members, listed, fun field member => List.mem_of_mem_filter member⟩
  · exact .inr ⟨items, listed, fun field member => (List.of_mem_zip member).2⟩

end Fields

end Format

namespace Fields

variable {fields : Fields α} {name : String} {default found : β}

theorem mem_of_lookup (read : fields.lookup name = some part) : ∃ field ∈ fields, field.2 = part := by
  obtain ⟨before, after, whole, -⟩ := List.lookup_eq_some_iff.mp read
  exact ⟨(name, part), whole ▸ List.mem_append_right before List.mem_cons_self, rfl⟩

theorem required?_from (read : fields.required? name decode? = some found) :
    ∃ field ∈ fields, decode? field.2 = some found := by
  obtain ⟨part, looked, decoded⟩ := Option.bind_eq_some_iff.mp read
  obtain ⟨field, member, rfl⟩ := mem_of_lookup looked
  exact ⟨field, member, decoded⟩

theorem orElse?_from (read : fields.orElse? name default decode? = some found) :
    found = default ∨ ∃ field ∈ fields, decode? field.2 = some found := by
  unfold orElse? at read
  split at read
  next part looked =>
    obtain ⟨field, member, rfl⟩ := mem_of_lookup looked
    exact .inr ⟨field, member, read⟩
  · exact .inl (Option.some.inj read).symm

end Fields

end ScriptedTask.Wire
