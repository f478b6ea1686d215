import ScriptedTask.Proofs.Json.Spelling

/-! A value is read back from each of its texts, as long as it nests no deeper than the reader
goes and its floats are read as they were. -/

namespace ScriptedTask.Json

variable {write : Nat → Json → List Char}

/-- Whatever the layout, what is written for a value is a text of it. -/
theorem Layout.spells (layout : Layout write) (value : Json) :
    ∀ level, value.Exact → Spells value (write level value) := by
  induction value using Json.induct with
  | null =>
    intro level _
    rw [layout.null]
    exact .null
  | bool flag =>
    intro level _
    rw [layout.bool]
    exact .bool flag
  | integer number inRange =>
    intro level _
    rw [layout.integer]
    exact .integer number inRange
  | float number =>
    intro level precise
    rw [layout.float]
    exact .float (precise number (by simp [floats]))
  | string text =>
    intro level _
    rw [layout.string]
    exact .string text
  | array items ih =>
    intro level precise
    rw [exact_array] at precise
    obtain ⟨before, after, blankBefore, blankAfter, shape⟩ := layout.array level
    rw [shape]
    exact .array blankBefore blankAfter fun item member => ih item member (level + 1) (precise item member)
  | object members ih =>
    intro level precise
    rw [exact_object] at precise
    obtain ⟨before, after, gap, blankBefore, blankAfter, blankGap, shape⟩ := layout.object level
    rw [shape]
    exact .object blankBefore blankAfter blankGap (List.Perm.refl _) fun member present =>
      ih member present (level + 1) (precise member present)

/-- Reading a text that was written gives the value, and stops behind it. -/
theorem value_reads (layout : Layout write) (written : Json) (limit level : Nat) (precise : written.Exact)
    (shallow : written.depth ≤ limit) : Reads (value limit) (write level written) fun _ => written :=
  (layout.spells written level precise).reads limit shallow

theorem readWithin_written (layout : Layout write) {blanks : List Char} (blank : AllBlank blanks) (limit level : Nat)
    {value : Json} (precise : value.Exact) (shallow : value.depth ≤ limit) :
    readWithin limit (blanks ++ write level value) = .ok value :=
  (layout.spells value level precise).readWithin blank shallow

end ScriptedTask.Json
