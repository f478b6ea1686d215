import ScriptedTask.Proofs.Script.CopyText

/-! Values go through scripts unchanged. What a script has of a value from outside and hands out
again, without changing it, is that value: for every key and every text in it, although it is
printed and read twice on its way and its members may change places there. -/

namespace ScriptedTask.Script

open Text (Units)

/-- A value stays what it is on its way through scripts that have the time and the room for it. -/
structure Untouched (value : Json) : Prop where
  /-- It goes in from any heap that has the room. Whatever happens then, as long as its objects stay as they
  are and prototypes do not tell how to write them, it goes out as it came in. -/
  converted : ∀ heap : Heap, heap.Affords 0 value.room → ∃ copy middle, Eval.ofJson value heap = .done middle (.ok copy) ∧
    ∀ later : Heap, (∀ id, heap.objects.size ≤ id → id < middle.objects.size → later.object id = middle.object id) →
      later.Silent → Num.isSafe value.work = true → later.Affords value.work 0 →
      ∃ last, Eval.toJson copy later = .done last (.ok (some value))
  /-- A script that copies it, in whatever session, ends well and has done that alone. -/
  copied : ∀ {m : Type → Type} [Monad m] [LawfulMonad m] (settings : RunSettings) (provider : Option (TokenSource m))
    (session : Session) (text : String) (origin : Origin) (sink : Sink) (source destination : String),
    Copies text origin sink source destination → origin.find? session source = some value → Scriptable session →
      Suffices settings value →
      runSource interpret settings provider text session = pure (.ok (), sink.put session destination value)
  /-- For any two names there is such a script. -/
  possible : ∀ (origin : Origin) (sink : Sink) (source destination : String),
    Copies (copyText origin sink source destination) origin sink source destination
  /-- Written back where it was read, it leaves the variables as they are. -/
  rewritten : ∀ (session : Session) (name : String), Origin.store.find? session name = some value →
    (Sink.store.put session name value).store.current = session.store.current

theorem insert_present {entries : Values} {name : String} {value : Json} (present : entries.get? name = some value) :
    entries.insert name value = entries := by
  refine Ascending.ext_get? fun wanted => ?_
  rw [Ascending.get?_insert]
  split
  next same => rw [same, present]
  · rfl

/-- Scripts leave a value as it is if its numbers are whole and below 2^53 and if it is nested no deeper than
the way out takes. Its keys and its texts do not matter. -/
theorem values_come_back {value : Json} (whole : value.isSafe = true) (shallow : value.depth ≤ Json.nestingLimit) :
    Untouched value where
  converted := by
    intro heap roomy
    obtain ⟨copy, middle, loaded, -, shown, -⟩ := (Eval.costs_ofJson whole heap).done roomy
    refine ⟨copy, middle, loaded, fun later kept silent short affords => ?_⟩
    have still := shown.frame ⟨Nat.le_refl _, Nat.le_refl _⟩ kept
    obtain ⟨_, last, written, -, rfl, -⟩ := (Eval.costs_toJson still silent ⟨whole, shallow, short⟩).done affords
    exact ⟨last, written⟩
  copied := by
    intro m _ _ settings provider session text origin sink source destination copies found scriptable enough
    exact runSource_copies provider copies found ⟨whole, shallow, enough.short⟩ scriptable enough
  possible := copies_copyText
  rewritten := by
    intro session name found
    exact insert_present found

/-- Keys that scripts treat in their own ways, and texts that have to be escaped. -/
def awkward : Json := .object (SortedMap.ofList [
  ("", .array [.integer 9007199254740991 (by decide), .integer (-3) (by decide), .null, .string "\"\\\n\u2028😀"]),
  ("1", .bool true),
  ("__proto__", .object (SortedMap.ofList [("toJSON", .string "")])),
  ("toJSON", .array [])])

def awkwardName : String := "it's \"it\""

def awkwardValues : Values := SortedMap.ofList [(awkwardName, awkward)]

/-- A session whose variables are these, of which these were written. -/
def sessionOf (current pending : Values) : Session where
  store := { current, pending }
  inputs := ⟨SortedMap.empty⟩
  outputs := ⟨SortedMap.empty⟩

theorem awkward_comes_back : runSource interpret {} (none : Option (TokenSource Id))
    (copyText .store .store awkwardName awkwardName) (sessionOf awkwardValues SortedMap.empty) =
      pure (.ok (), sessionOf awkwardValues awkwardValues) := by
  have untouched : Untouched awkward := values_come_back (by decide +kernel) (by decide +kernel)
  have enough : Suffices {} awkward := by
    refine ⟨by decide +kernel, ?_, by decide +kernel⟩
    intro limit limited
    cases limited
  have scriptable : Scriptable (sessionOf awkwardValues SortedMap.empty) := ⟨rfl, by simp [sessionOf]⟩
  have ran := untouched.copied {} (none : Option (TokenSource Id)) _ _ .store .store _ _
    (untouched.possible .store .store awkwardName awkwardName) rfl scriptable enough
  have back := untouched.rewritten (sessionOf awkwardValues SortedMap.empty) awkwardName rfl
  rw [ran]
  let result (current : Values) : Id (Except ScriptError Unit × Session) := pure (.ok (), sessionOf current awkwardValues)
  exact congrArg result back

end ScriptedTask.Script
