import Mathlib.Data.List.Forall2

/-! Computations that may fail. One that is made of parts succeeds just if its parts do. -/

namespace ScriptedTask

section Errors

variable {ε α β : Type}

theorem bind_ok {first : Except ε α} {next : α → Except ε β} {result : β} :
    (first >>= next) = .ok result ↔ ∃ found, first = .ok found ∧ next found = .ok result := by
  cases first with
  | error problem => exact iff_of_false nofun fun ⟨_, impossible, _⟩ => nomatch impossible
  | ok found =>
    constructor
    · exact fun done => ⟨found, rfl, done⟩
    · rintro ⟨_, ⟨⟩, done⟩
      exact done

theorem map_ok {result : Except ε α} {f : α → β} {found : β} (mapped : result.map f = .ok found) :
    ∃ before, result = .ok before ∧ f before = found := by
  cases result with
  | error problem => cases mapped
  | ok before =>
    cases mapped
    exact ⟨before, rfl, rfl⟩

theorem map_error {result : Except ε α} {f : α → β} {problem : ε} :
    result.map f = .error problem ↔ result = .error problem := by
  cases result with
  | error other => simp [Except.map]
  | ok found => exact iff_of_false nofun nofun

theorem isOk_iff {result : Except ε α} : result.isOk = true ↔ ∃ found, result = .ok found := by
  cases result with
  | error problem => exact iff_of_false Bool.false_ne_true nofun
  | ok found => exact iff_of_true rfl ⟨found, rfl⟩

theorem mapM_ok_iff {items : List α} {step : α → Except ε β} {results : List β} :
    items.mapM step = .ok results ↔ List.Forall₂ (fun item result => step item = .ok result) items results := by
  induction items generalizing results with
  | nil =>
    rw [List.mapM_nil, List.forall₂_nil_left_iff]
    exact ⟨fun same => (Except.ok.inj same).symm, fun same => congrArg Except.ok same.symm⟩
  | cons item rest ih =>
    rw [List.mapM_cons, bind_ok, List.forall₂_cons_left_iff]
    constructor
    · intro ⟨result, first, done⟩
      obtain ⟨others, later, same⟩ := bind_ok.mp done
      cases same
      exact ⟨result, others, first, ih.mp later, rfl⟩
    · intro ⟨result, others, first, later, same⟩
      exact ⟨result, first, bind_ok.mpr ⟨others, ih.mpr later, congrArg Except.ok same.symm⟩⟩

theorem mapM_cons_error {first : α} {rest : List α} {step : α → Except ε β} {problem : ε} :
    (first :: rest).mapM step = .error problem ↔
      step first = .error problem ∨ (step first).isOk = true ∧ rest.mapM step = .error problem := by
  rw [List.mapM_cons]
  cases step first with
  | error other =>
    constructor
    · intro failed
      cases failed
      exact .inl rfl
    · intro failed
      cases failed.resolve_right fun impossible => nomatch impossible.1
      rfl
  | ok found =>
    cases rest.mapM step with
    | error other => exact ⟨fun failed => .inr ⟨rfl, failed⟩, fun failed => (failed.resolve_left nofun).2⟩
    | ok others => exact iff_of_false nofun (by simp)

/-- A row of computations fails as the first one that fails, whatever comes after it. -/
theorem mapM_error_iff {items : List α} {step : α → Except ε β} {problem : ε} :
    items.mapM step = .error problem ↔ ∃ before item after, items = before ++ item :: after ∧
      (∀ earlier ∈ before, (step earlier).isOk = true) ∧ step item = .error problem := by
  induction items with
  | nil => exact iff_of_false nofun (by simp)
  | cons first rest ih =>
    rw [mapM_cons_error, ih]
    constructor
    · rintro (failed | ⟨passed, before, item, after, whole, others, failed⟩)
      · exact ⟨[], first, rest, rfl, by simp, failed⟩
      · exact ⟨first :: before, item, after, by rw [whole, List.cons_append],
          List.forall_mem_cons.mpr ⟨passed, others⟩, failed⟩
    · intro ⟨before, item, after, whole, passed, failed⟩
      cases before with
      | nil =>
        cases whole
        exact .inl failed
      | cons head more =>
        cases whole
        obtain ⟨head, others⟩ := List.forall_mem_cons.mp passed
        exact .inr ⟨head, more, item, after, rfl, others, failed⟩

end Errors

section Options

variable {α β : Type} {f : α → Option β}

theorem mapM_some_iff {items : List α} {results : List β} :
    items.mapM f = some results ↔ List.Forall₂ (fun item result => f item = some result) items results := by
  induction items generalizing results with
  | nil =>
    rw [List.mapM_nil, List.forall₂_nil_left_iff]
    exact ⟨fun same => (Option.some.inj same).symm, fun same => congrArg some same.symm⟩
  | cons item rest ih =>
    simp only [List.mapM_cons, Option.bind_eq_bind, Option.bind_eq_some_iff, ih, List.forall₂_cons_left_iff]
    constructor
    · rintro ⟨result, first, others, later, ⟨⟩⟩
      exact ⟨result, others, first, later, rfl⟩
    · rintro ⟨result, others, first, later, rfl⟩
      exact ⟨result, first, others, later, rfl⟩

theorem mapM_some {items : List α} {g : α → β} (found : ∀ item ∈ items, f item = some (g item)) :
    items.mapM f = some (items.map g) :=
  mapM_some_iff.mpr (List.forall₂_map_right_iff.mpr (List.forall₂_same.mpr found))

theorem exists_of_forall₂ {related : α → β → Prop} {items : List α} {results : List β}
    (each : List.Forall₂ related items results) {result : β} (member : result ∈ results) :
    ∃ item ∈ items, related item result := by
  induction each with
  | nil => cases member
  | @cons first _ rest _ same _ ih =>
    rcases List.mem_cons.mp member with rfl | later
    · exact ⟨first, List.mem_cons_self, same⟩
    · obtain ⟨item, present, same⟩ := ih later
      exact ⟨item, List.mem_cons_of_mem first present, same⟩

end Options

end ScriptedTask
