import ScriptedTask.SortedMap

/-! Maps laid over one another. What a map laid over another holds is told by look-ups, so laying
is associative, and writing into the upper map is writing into the whole. -/

namespace ScriptedTask

namespace Ascending

variable {α β : Type} {lower : Option String}

theorem toList_mapValues (f : α → β) (entries : Ascending α lower) :
    (entries.mapValues f).toList = entries.toList.map fun pair => (pair.1, f pair.2) := by
  induction entries with
  | nil => rfl
  | cons name above value rest ih => simp [mapValues, toList, ih]

theorem isEmpty_iff (entries : Ascending α lower) :
    entries.isEmpty = true ↔ ∀ name, entries.get? name = none := by
  constructor
  · intro empty name
    cases entries with
    | nil => rfl
    | cons => simp [isEmpty] at empty
  · intro missing
    cases entries with
    | nil => rfl
    | cons name above value rest => simpa [get?] using missing name

theorem lookup_toList (entries : Ascending α lower) (wanted : String) :
    entries.toList.lookup wanted = entries.get? wanted := by
  induction entries with
  | nil => rfl
  | cons name above value rest ih =>
    by_cases same : wanted = name
    · simp [toList, get?, same]
    · simp [toList, get?, List.lookup_cons, same, ih, beq_false_of_ne same]

theorem pairwise_toList (entries : Ascending α lower) :
    entries.toList.Pairwise fun first second => first.1 < second.1 := by
  induction entries with
  | nil => exact List.Pairwise.nil
  | cons name above value rest ih => exact List.Pairwise.cons rest.toList_above ih

theorem pairwise_keys (entries : Ascending α lower) : entries.keys.Pairwise (· < ·) :=
  List.pairwise_map.mpr entries.pairwise_toList

theorem nodup_keys (entries : Ascending α lower) : entries.keys.Nodup := by
  rw [keys, List.Nodup, List.pairwise_map]
  refine entries.pairwise_toList.imp ?_
  intro first second below same
  exact String.lt_irrefl _ (same ▸ below)

theorem toList_weaken {higher : Option String} (below : ∀ name, Above higher name → Above lower name)
    (entries : Ascending α higher) : (entries.weaken below).toList = entries.toList := by
  cases entries <;> rfl

theorem toList_filter (keep : String → α → Bool) (entries : Ascending α lower) :
    (entries.filter keep).toList = entries.toList.filter fun pair => keep pair.1 pair.2 := by
  induction entries with
  | nil => rfl
  | cons name above value rest ih =>
    rw [filter, toList, List.filter_cons]
    split
    · rw [toList, ih]
    · rw [toList_weaken, ih]

/-- Of pairs written one after the other, the last one of a name counts. -/
theorem get?_foldl_insert (pairs : List (String × α)) (base : SortedMap α) (wanted : String) :
    (pairs.foldl (fun entries pair => entries.insert pair.1 pair.2) base).get? wanted =
      (pairs.reverse.lookup wanted).or (base.get? wanted) := by
  induction pairs generalizing base with
  | nil => simp
  | cons pair rest ih =>
    obtain ⟨name, value⟩ := pair
    rw [List.foldl_cons, ih, get?_insert, List.reverse_cons, List.lookup_append]
    cases rest.reverse.lookup wanted with
    | some found => rfl
    | none =>
      by_cases same : wanted = name
      · simp [same]
      · simp [List.lookup_cons, same, beq_false_of_ne same]

theorem get?_ofList (pairs : List (String × α)) (wanted : String) :
    (SortedMap.ofList pairs).get? wanted = pairs.reverse.lookup wanted := by
  rw [SortedMap.ofList, get?_foldl_insert, get?_empty, Option.or_none]

end Ascending

/-- Without repeated names the order of pairs does not matter to what they bind. -/
theorem lookup_reverse {α : Type} {pairs : List (String × α)} (distinct : (pairs.map Prod.fst).Nodup)
    (wanted : String) : pairs.reverse.lookup wanted = pairs.lookup wanted := by
  induction pairs with
  | nil => rfl
  | cons pair rest ih =>
    obtain ⟨name, value⟩ := pair
    rw [List.map_cons, List.nodup_cons] at distinct
    rw [List.reverse_cons, List.lookup_append, ih distinct.2]
    by_cases same : wanted = name
    · subst same
      have missing : rest.lookup wanted = none := by
        rw [List.lookup_eq_none_iff]
        intro other member
        have differ : wanted ≠ other.1 := fun same => distinct.1 (List.mem_map.mpr ⟨other, member, same.symm⟩)
        simp [differ]
      simp [missing]
    · simp [List.lookup_cons, beq_false_of_ne same]

theorem lookup_filter {α : Type} (keep : String → Bool) (pairs : List (String × α)) (wanted : String) :
    (pairs.filter fun pair => keep pair.1).lookup wanted = (pairs.lookup wanted).filter fun _ => keep wanted := by
  induction pairs with
  | nil => rfl
  | cons pair rest ih =>
    obtain ⟨name, value⟩ := pair
    by_cases same : wanted = name
    · subst same
      rw [List.lookup_cons_self]
      cases kept : keep wanted with
      | true =>
        rw [List.filter_cons_of_pos (by exact kept), List.lookup_cons_self]
        rfl
      | false =>
        rw [List.filter_cons_of_neg (by simp [kept]), ih, kept]
        cases rest.lookup wanted <;> rfl
    · cases kept : keep name <;> simp [kept, ih, List.lookup_cons, beq_false_of_ne same]

theorem mem_iff_lookup {α : Type} {pairs : List (String × α)} (distinct : (pairs.map Prod.fst).Nodup)
    {name : String} {value : α} : (name, value) ∈ pairs ↔ pairs.lookup name = some value := by
  induction pairs with
  | nil => simp
  | cons pair rest ih =>
    obtain ⟨other, held⟩ := pair
    rw [List.map_cons, List.nodup_cons] at distinct
    by_cases same : name = other
    · subst same
      have later : (name, value) ∉ rest := fun member => distinct.1 (List.mem_map.mpr ⟨_, member, rfl⟩)
      simp [later, eq_comm]
    · simp [List.lookup_cons, beq_false_of_ne same, same, ih distinct.2]

namespace Ascending

variable {α : Type}

theorem mem_toList (entries : SortedMap α) {name : String} {value : α} :
    (name, value) ∈ entries.toList ↔ entries.get? name = some value := by
  rw [mem_iff_lookup entries.nodup_keys, lookup_toList]

theorem mem_keys (entries : SortedMap α) {name : String} : name ∈ entries.keys ↔ entries.contains name = true := by
  rw [contains, Option.isSome_iff_exists, keys, List.mem_map]
  constructor
  · rintro ⟨⟨_, value⟩, member, rfl⟩
    exact ⟨value, entries.mem_toList.mp member⟩
  · rintro ⟨value, found⟩
    exact ⟨(name, value), entries.mem_toList.mpr found, rfl⟩

theorem toList_ofList {pairs : List (String × α)} (distinct : (pairs.map Prod.fst).Nodup) :
    (SortedMap.ofList pairs).toList.Perm pairs := by
  let entries := SortedMap.ofList pairs
  have once : entries.toList.Nodup :=
    List.Pairwise.of_map _ (fun _ _ differ same => differ (same ▸ rfl)) entries.nodup_keys
  have given : pairs.Nodup := List.Pairwise.of_map _ (fun _ _ differ same => differ (same ▸ rfl)) distinct
  refine (List.perm_ext_iff_of_nodup once given).mpr ?_
  intro ⟨name, value⟩
  rw [mem_iff_lookup entries.nodup_keys, mem_iff_lookup distinct, lookup_toList, get?_ofList,
    lookup_reverse distinct]

/-- A map does not show in which order its entries were given. -/
theorem ofList_perm {pairs others : List (String × α)} (distinct : (pairs.map Prod.fst).Nodup)
    (shuffled : others.Perm pairs) : SortedMap.ofList others = SortedMap.ofList pairs := by
  have alsoDistinct : (others.map Prod.fst).Nodup := (shuffled.map Prod.fst).nodup_iff.mpr distinct
  apply ext_get?
  intro name
  rw [get?_ofList, get?_ofList, lookup_reverse alsoDistinct, lookup_reverse distinct]
  apply Option.ext
  intro held
  rw [← mem_iff_lookup alsoDistinct, ← mem_iff_lookup distinct, shuffled.mem_iff]

theorem mem_of_mem_ofList {pairs : List (String × α)} {pair : String × α}
    (member : pair ∈ (SortedMap.ofList pairs).toList) : pair ∈ pairs := by
  obtain ⟨name, value⟩ := pair
  rw [mem_iff_lookup (SortedMap.ofList pairs).nodup_keys, lookup_toList, get?_ofList,
    List.lookup_eq_some_iff] at member
  obtain ⟨before, after, whole, -⟩ := member
  rw [← List.mem_reverse, whole]
  exact List.mem_append_right before List.mem_cons_self

theorem filter_ofList (keep : String → Bool) (pairs : List (String × α)) :
    ((SortedMap.ofList pairs).filter fun name _ => keep name) =
      SortedMap.ofList (pairs.filter fun pair => keep pair.1) := by
  apply ext_get?
  intro name
  rw [get?_filter, get?_ofList, get?_ofList, ← List.filter_reverse, lookup_filter]

theorem get?_overlay (base upper : SortedMap α) (wanted : String) :
    (base.overlay upper).get? wanted = (upper.get? wanted).or (base.get? wanted) := by
  rw [overlay, get?_foldl_insert, lookup_reverse upper.nodup_keys, lookup_toList]

theorem ofList_toList (entries : SortedMap α) : SortedMap.ofList entries.toList = entries := by
  apply ext_get?
  intro name
  rw [get?_ofList, lookup_reverse entries.nodup_keys, lookup_toList]

@[simp] theorem empty_overlay (upper : SortedMap α) : SortedMap.empty.overlay upper = upper :=
  upper.ofList_toList

theorem overlay_assoc (base middle upper : SortedMap α) :
    (base.overlay middle).overlay upper = base.overlay (middle.overlay upper) := by
  apply ext_get?
  intro name
  simp only [get?_overlay, Option.or_assoc]

/-- Maps that share no name can be laid over another in either order. -/
theorem overlay_comm (base : SortedMap α) {upper other : SortedMap α}
    (disjoint : ∀ name, upper.get? name = none ∨ other.get? name = none) :
    (base.overlay upper).overlay other = (base.overlay other).overlay upper := by
  apply ext_get?
  intro name
  simp only [get?_overlay]
  rcases disjoint name with missing | missing
  · rw [missing, Option.none_or, Option.none_or]
  · rw [missing, Option.none_or, Option.none_or]

theorem overlay_insert (base upper : SortedMap α) (name : String) (value : α) :
    base.overlay (upper.insert name value) = (base.overlay upper).insert name value := by
  apply ext_get?
  intro wanted
  simp only [get?_overlay, get?_insert]
  split <;> rfl

end Ascending
end ScriptedTask
