import ScriptedTask.Proofs.Json.Enclosed
import ScriptedTask.Proofs.Json.Shape
import ScriptedTask.Proofs.Outcomes
import ScriptedTask.Proofs.Overlay

/-! What the limit on nesting does. A value that is read nests no deeper than the limit, a higher
limit changes nothing about it, and passing over it needs no more fuel than its limit. -/

namespace ScriptedTask.Json

variable {α β ν μ : Type}

/-- Wherever the first reader succeeds the second one does, too: it stops at the same place and
finds a view of what the first one found. -/
def Tracks (first : Reader α) (second : Reader β) (view : α → β) : Prop :=
  ∀ {text found rest}, first text = .ok (found, rest) → second text = .ok (view found, rest)

section Lists

variable {item : Reader α} {other : Reader β} {view : α → β} {name : Reader ν} {label : Reader μ} {know : ν → μ}
  {text rest : List Char}

/-- Items that were read are a first one and those after a comma, or the last one. -/
theorem items_ok {fuel : Nat} {done founds : List α} (read : items item fuel done text = .ok (founds, rest)) :
    ∃ less found later, fuel = less + 1 ∧ item text = .ok (found, later) ∧
      ((∃ more, skipBlanks later = ',' :: more ∧ items item less (found :: done) more = .ok (founds, rest)) ∨
        skipBlanks later = ']' :: rest ∧ founds = (found :: done).reverse) := by
  cases fuel with
  | zero => cases read
  | succ less =>
    simp only [items, bind, Except.bind] at read
    split at read
    · cases read
    next found first =>
      obtain ⟨found, later⟩ := found
      refine ⟨less, found, later, rfl, first, ?_⟩
      split at read
      next more comma => exact .inl ⟨more, comma, read⟩
      next more closed =>
        cases read
        exact .inr ⟨closed, rfl⟩
      · cases read

theorem members_ok {fuel : Nat} {done founds : List (ν × α)}
    (read : members name item fuel done text = .ok (founds, rest)) :
    ∃ less known between found later, fuel = less + 1 ∧ name text = .ok (known, between) ∧
      item between = .ok (found, later) ∧
      ((∃ more, skipBlanks later = ',' :: more ∧
          members name item less ((known, found) :: done) more = .ok (founds, rest)) ∨
        skipBlanks later = '}' :: rest ∧ founds = ((known, found) :: done).reverse) := by
  cases fuel with
  | zero => cases read
  | succ less =>
    simp only [members, bind, Except.bind] at read
    split at read
    · cases read
    next known named =>
      obtain ⟨known, between⟩ := known
      split at read
      · cases read
      next found first =>
        obtain ⟨found, later⟩ := found
        refine ⟨less, known, between, found, later, rfl, named, first, ?_⟩
        split at read
        next more comma => exact .inl ⟨more, comma, read⟩
        next more closed =>
          cases read
          exact .inr ⟨closed, rfl⟩
        · cases read

theorem items_track (tracks : Tracks item other view) {fuel : Nat} {done founds : List α}
    (read : items item fuel done text = .ok (founds, rest)) :
    items other fuel (done.map view) text = .ok (founds.map view, rest) := by
  induction fuel generalizing done text with
  | zero => cases read
  | succ less ih =>
    obtain ⟨_, found, later, ⟨⟩, first, ⟨more, comma, others⟩ | ⟨closed, rfl⟩⟩ := items_ok read
    · rw [items_more (tracks first) comma]
      exact ih others
    · rw [items_last (tracks first) closed, List.map_reverse, List.map_cons]

theorem members_track (names : Tracks name label know) (tracks : Tracks item other view) {fuel : Nat}
    {done founds : List (ν × α)} (read : members name item fuel done text = .ok (founds, rest)) :
    members label other fuel (done.map (Prod.map know view)) text = .ok (founds.map (Prod.map know view), rest) := by
  induction fuel generalizing done text with
  | zero => cases read
  | succ less ih =>
    obtain ⟨_, known, between, found, later, ⟨⟩, named, first, ⟨more, comma, others⟩ | ⟨closed, rfl⟩⟩ := members_ok read
    · rw [members_more (names named) (tracks first) comma]
      exact ih others
    · rw [members_last (names named) (tracks first) closed, List.map_reverse, List.map_cons]
      rfl

theorem itemsAfter_track (tracks : Tracks item other view) :
    Tracks (itemsAfter item) (itemsAfter other) (List.map view) := by
  intro text founds rest read
  unfold itemsAfter at read ⊢
  split at read
  next closed =>
    cases read
    rfl
  next goesOn =>
    exact items_track tracks read

theorem membersAfter_track (names : Tracks name label know) (tracks : Tracks item other view) :
    Tracks (membersAfter name item) (membersAfter label other) (List.map (Prod.map know view)) := by
  intro text founds rest read
  unfold membersAfter at read ⊢
  split at read
  next closed =>
    cases read
    rfl
  next goesOn =>
    exact members_track names tracks read

end Lists

section Forall

variable {item : Reader α} {name : Reader ν} {holds : α → Prop}
  (each : ∀ {text found rest}, item text = .ok (found, rest) → holds found) {text rest : List Char}

include each

theorem items_forall {fuel : Nat} {done founds : List α} (before : ∀ found ∈ done, holds found)
    (read : items item fuel done text = .ok (founds, rest)) : ∀ found ∈ founds, holds found := by
  induction fuel generalizing done text with
  | zero => cases read
  | succ less ih =>
    obtain ⟨_, found, later, ⟨⟩, first, next⟩ := items_ok read
    have both : ∀ one ∈ found :: done, holds one := List.forall_mem_cons.mpr ⟨each first, before⟩
    rcases next with ⟨more, comma, others⟩ | ⟨closed, rfl⟩
    · exact ih both others
    · simpa only [List.mem_reverse] using both

theorem members_forall {fuel : Nat} {done founds : List (ν × α)} (before : ∀ found ∈ done, holds found.2)
    (read : members name item fuel done text = .ok (founds, rest)) : ∀ found ∈ founds, holds found.2 := by
  induction fuel generalizing done text with
  | zero => cases read
  | succ less ih =>
    obtain ⟨_, known, between, found, later, ⟨⟩, named, first, next⟩ := members_ok read
    have both : ∀ one ∈ (known, found) :: done, holds one.2 := List.forall_mem_cons.mpr ⟨each first, before⟩
    rcases next with ⟨more, comma, others⟩ | ⟨closed, rfl⟩
    · exact ih both others
    · simpa only [List.mem_reverse] using both

/-- What holds of everything that a reader finds holds of all items that it reads. -/
theorem itemsAfter_forall {founds : List α} (read : itemsAfter item text = .ok (founds, rest)) :
    ∀ found ∈ founds, holds found := by
  unfold itemsAfter at read
  split at read
  · cases read
    simp
  · exact items_forall each (by simp) read

theorem membersAfter_forall {founds : List (ν × α)} (read : membersAfter name item text = .ok (founds, rest)) :
    ∀ found ∈ founds, holds found.2 := by
  unfold membersAfter at read
  split at read
  · cases read
    simp
  · exact members_forall each (by simp) read

end Forall

section Depth

variable {text rest : List Char} {found : Json}

theorem word_depth (opened : opening text = .word found rest) : found.depth = 0 := by
  unfold opening at opened
  split at opened <;> cases opened <;> rfl

theorem value?_depth {lexeme : Lexeme} (valued : lexeme.value? = some found) : found.depth = 0 := by
  unfold Lexeme.value? at valued
  split at valued
  · extract_lets magnitude whole at valued
    split at valued
    · split at valued
      all_goals
        rw [← Option.some.inj valued]
        rfl
    · obtain ⟨_, -, rfl⟩ := Option.map_eq_some_iff.mp valued
      rfl
  · obtain ⟨_, -, rfl⟩ := Option.map_eq_some_iff.mp valued
    rfl

theorem number_ok (read : number text = .ok (found, rest)) :
    ∃ parts, lexeme text = .ok (parts, rest) ∧ parts.value? = some found := by
  rw [number, bind_ok] at read
  obtain ⟨⟨parts, later⟩, first, valued⟩ := read
  simp only at valued
  split at valued
  next same =>
    cases valued
    exact ⟨parts, first, same⟩
  · cases valued

/-- The ways in which a value is read. -/
inductive Valued (limit : Nat) (text rest : List Char) : Json → Prop
  | word {found : Json} (opened : opening text = .word found rest) : Valued limit text rest found
  | string {content later : List Char} (opened : opening text = .string later)
      (closed : stringBody [] later = .ok (content, rest)) : Valued limit text rest (.string (String.ofList content))
  | array {inner : Nat} {later : List Char} {founds : List Json} (within : limit = inner + 1)
      (opened : opening text = .array later) (listed : itemsAfter (value inner) later = .ok (founds, rest)) :
      Valued limit text rest (.array founds)
  | object {inner : Nat} {later : List Char} {founds : List (String × Json)} (within : limit = inner + 1)
      (opened : opening text = .object later)
      (listed : membersAfter memberName (value inner) later = .ok (founds, rest)) :
      Valued limit text rest (.object (SortedMap.ofList founds))
  | number {later : List Char} {found : Json} (opened : opening text = .number later)
      (read : number later = .ok (found, rest)) : Valued limit text rest found

theorem value_ok {limit : Nat} : value limit text = .ok (found, rest) ↔ Valued limit text rest found := by
  rw [value_eq]
  constructor
  · intro read
    cases opened : opening text <;> simp only [opened] at read
    case word =>
      cases read
      exact .word opened
    case string =>
      obtain ⟨⟨content, later⟩, closed, ⟨⟩⟩ := map_ok read
      exact .string opened closed
    case array =>
      cases limit with
      | zero => cases read
      | succ inner =>
        obtain ⟨⟨founds, later⟩, listed, ⟨⟩⟩ := map_ok read
        exact .array rfl opened listed
    case object =>
      cases limit with
      | zero => cases read
      | succ inner =>
        obtain ⟨⟨founds, later⟩, listed, ⟨⟩⟩ := map_ok read
        exact .object rfl opened listed
    case number => exact .number opened read
  · intro valued
    cases valued with
    | word opened => simp only [opened]
    | string opened closed => simp only [opened, closed, Except.map]
    | array within opened listed => simp only [within, opened, listed, Except.map]
    | object within opened listed => simp only [within, opened, listed, Except.map]
    | number opened read => simp only [opened, read]

/-- A value that is read nests no deeper than the limit. -/
theorem value_depth {limit : Nat} (read : value limit text = .ok (found, rest)) : found.depth ≤ limit := by
  induction limit using Nat.strongRecOn generalizing text rest found with
  | ind limit ih =>
    cases value_ok.mp read with
    | word opened =>
      rw [word_depth opened]
      exact Nat.zero_le limit
    | string => exact Nat.zero_le limit
    | array within _ listed =>
      subst within
      rw [depth_array_le]
      exact itemsAfter_forall (ih _ (Nat.lt_succ_self _)) listed
    | object within _ listed =>
      subst within
      rw [depth_object_le]
      intro member present
      exact membersAfter_forall (ih _ (Nat.lt_succ_self _)) listed member (Ascending.mem_of_mem_ofList present)
    | number _ read =>
      obtain ⟨parts, -, valued⟩ := number_ok read
      rw [value?_depth valued]
      exact Nat.zero_le limit

end Depth

end ScriptedTask.Json
