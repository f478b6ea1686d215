import Mathlib.Logic.ExistsUnique
import Mathlib.Logic.Relation
import ScriptedTask.Proofs.Dialogue
import ScriptedTask.Proofs.Fragments

/-! The inputs of a task by the part that they take. Every input is a fragment of one phase, is visible to
scripts, or takes no part at all; and what comes of the inputs of a kind is settled by them alone. -/

namespace ScriptedTask

/-- The part that an input takes. -/
inductive InputKind where
  | fragment (phase : Phase)
  /-- The name is reserved, but does not stand for a text. -/
  | idle
  | visible
deriving DecidableEq

namespace InputKind

def Covers : InputKind → String → Json → Prop
  | fragment phase, name, value => phase.word.toList <+: name.toList ∧ ∃ text, value = .string text
  | idle, name, value => (∃ phase : Phase, phase.word.toList <+: name.toList) ∧ ∀ text, value ≠ .string text
  | visible, name, _ => ∀ phase : Phase, ¬phase.word.toList <+: name.toList

variable {kind other : InputKind} {name : String} {value : Json} {left right : Values}

theorem exists_covers (name : String) (value : Json) : ∃ kind : InputKind, kind.Covers name value := by
  by_cases reserved : ∃ phase : Phase, phase.word.toList <+: name.toList
  · by_cases string : ∃ text, value = .string text
    · obtain ⟨phase, named⟩ := reserved
      exact ⟨.fragment phase, named, string⟩
    · exact ⟨.idle, reserved, not_exists.mp string⟩
  · exact ⟨.visible, not_exists.mp reserved⟩

theorem Covers.unique (first : kind.Covers name value) (second : other.Covers name value) : kind = other := by
  cases kind with
  | fragment phase =>
    obtain ⟨named, text, rfl⟩ := first
    cases other with
    | fragment another =>
      congr 1
      exact Fragment.belongsTo_once (Fragment.belongsTo_iff.mpr named) (Fragment.belongsTo_iff.mpr second.1)
    | idle => exact absurd rfl (second.2 text)
    | visible => exact absurd named (second phase)
  | idle =>
    obtain ⟨⟨phase, named⟩, silent⟩ := first
    cases other with
    | fragment another =>
      obtain ⟨-, text, string⟩ := second
      exact absurd string (silent text)
    | idle => rfl
    | visible => exact absurd named (second phase)
  | visible =>
    cases other with
    | fragment phase => exact absurd second.1 (first phase)
    | idle =>
      obtain ⟨⟨phase, named⟩, -⟩ := second
      exact absurd named (first phase)
    | visible => rfl

theorem covers_fragment_iff {phase : Phase} :
    (fragment phase).Covers name value ↔ (Fragment.text? phase name value).isSome = true := by
  constructor
  · rintro ⟨named, text, rfl⟩
    have kept : Fragment.text? phase name (.string text) = some text := if_pos (Fragment.belongsTo_iff.mpr named)
    rw [kept]
    rfl
  · intro found
    obtain ⟨text, kept⟩ := Option.isSome_iff_exists.mp found
    unfold Fragment.text? at kept
    split at kept
    next held =>
      split at kept
      next belongs => exact ⟨Fragment.belongsTo_iff.mp belongs, held, rfl⟩
      · cases kept
    · cases kept

theorem covers_visible_iff : visible.Covers name value ↔ Fragment.isReserved name = false := by
  simp only [Covers, ← Fragment.belongsTo_iff, Fragment.isReserved, Bool.or_eq_false_iff, Bool.not_eq_true]
  exact ⟨fun none => ⟨none .pre, none .post⟩, fun none phase => by cases phase <;> simp [none]⟩

theorem get?_strip (inputs : Values) : (Fragment.strip inputs).get? name = some value ↔
    inputs.get? name = some value ∧ visible.Covers name value := by
  rw [Fragment.strip, Ascending.get?_filter, Option.filter_eq_some_iff, covers_visible_iff, Bool.not_eq_true']

/-- The maps hold the same inputs of the kind. -/
def Agree (kind : InputKind) (left right : Values) : Prop :=
  ∀ name value, kind.Covers name value → (left.get? name = some value ↔ right.get? name = some value)

theorem assemble_eq (inputs : Values) (phase : Phase) :
    Fragment.assemble inputs phase =
      Fragment.assemble (inputs.filter fun name value => (Fragment.text? phase name value).isSome) phase := by
  rw [Fragment.assemble, Fragment.assemble, Ascending.toList_filter, List.filterMap_filter]
  congr 2
  funext entry
  cases Fragment.text? phase entry.1 entry.2 <;> rfl

/-- The script of a phase is settled by the fragments of the phase. -/
theorem Agree.assemble {phase : Phase} (agree : Agree (.fragment phase) left right) :
    Fragment.assemble left phase = Fragment.assemble right phase := by
  have same : (left.filter fun name value => (Fragment.text? phase name value).isSome) =
      right.filter fun name value => (Fragment.text? phase name value).isSome := by
    apply Ascending.ext_get?
    intro name
    apply Option.ext
    intro value
    rw [Ascending.get?_filter, Ascending.get?_filter, Option.filter_eq_some_iff, Option.filter_eq_some_iff,
      ← covers_fragment_iff]
    exact and_congr_left fun covers => agree name value covers
  rw [assemble_eq left, assemble_eq right, same]

/-- What scripts see is settled by the visible inputs. -/
theorem Agree.strip (agree : Agree .visible left right) : Fragment.strip left = Fragment.strip right := by
  apply Ascending.ext_get?
  intro name
  apply Option.ext
  intro value
  rw [get?_strip, get?_strip]
  exact and_congr_left fun covers => agree name value covers

/-- An input of the kind is added, gets another value, or is removed. -/
inductive Edit (kind : InputKind) (inputs : Values) : Values → Prop
  | add {name : String} {value : Json} (fresh : inputs.get? name = none) (covers : kind.Covers name value) :
    Edit kind inputs (inputs.insert name value)
  | change {name : String} {old value : Json} (held : inputs.get? name = some old) (covered : kind.Covers name old)
    (covers : kind.Covers name value) : Edit kind inputs (inputs.insert name value)
  | remove {name : String} {old : Json} (held : inputs.get? name = some old) (covered : kind.Covers name old) :
    Edit kind inputs (inputs.erase name)

/-- An input of one kind is none of another, and so it has another value than any of those. -/
theorem Covers.ne {held : Json} (first : kind.Covers name held) (second : other.Covers name value)
    (differ : kind ≠ other) : held ≠ value := by
  rintro rfl
  exact differ (first.unique second)

theorem Edit.agree {before after : Values} (edit : Edit kind before after) (differ : kind ≠ other) :
    Agree other before after := by
  intro wanted value covers
  cases edit with
  | @add name added fresh own =>
    rw [Ascending.get?_insert]
    split
    next same =>
      subst same
      rw [fresh, Option.some.injEq]
      exact iff_of_false nofun (own.ne covers differ)
    next => rfl
  | @change name old changed held owned own =>
    rw [Ascending.get?_insert]
    split
    next same =>
      subst same
      rw [held, Option.some.injEq, Option.some.injEq]
      exact iff_of_false (owned.ne covers differ) (own.ne covers differ)
    next => rfl
  | @remove name old held owned =>
    rw [Ascending.get?_erase]
    split
    next same =>
      subst same
      rw [held, Option.some.injEq]
      exact iff_of_false (owned.ne covers differ) nofun
    next => rfl

/-- However the inputs of one kind are edited, those of another stay as they are. -/
theorem agree_of_edits {before after : Values} (edits : Relation.ReflTransGen (Edit kind) before after)
    (differ : kind ≠ other) : Agree other before after := by
  induction edits with
  | refl => exact fun _ _ _ => Iff.rfl
  | tail _ edit ih => exact fun name value covers => (ih name value covers).trans (edit.agree differ name value covers)

end InputKind

namespace VisibleInputs

section Calls

variable {call : Call} {name : String}

theorem invoke_get (asks : call.method = "get") (seen : VisibleInputs) :
    capability.invoke call seen = ((call.text 0).map seen.inputs.get?, seen) := by
  obtain ⟨target, method, arguments⟩ := call
  cases asks
  rfl

theorem invoke_exists (asks : call.method = "exists") (seen : VisibleInputs) :
    capability.invoke call seen = ((call.text 0).map fun name => some (Json.bool (seen.inputs.contains name)), seen) := by
  obtain ⟨target, method, arguments⟩ := call
  cases asks
  rfl

theorem invoke_list (asks : call.method = "list") (seen : VisibleInputs) :
    capability.invoke call seen = (.ok (some (.array seen.inputs.values)), seen) := by
  obtain ⟨target, method, arguments⟩ := call
  cases asks
  rfl

theorem invoke_listNames (asks : call.method = "listNames") (seen : VisibleInputs) :
    capability.invoke call seen = (.ok (some (.array (seen.inputs.keys.map .string))), seen) := by
  obtain ⟨target, method, arguments⟩ := call
  cases asks
  rfl

theorem method_mem {method : Method VisibleInputs} (member : method ∈ capability.methods) :
    method.name = "get" ∨ method.name = "exists" ∨ method.name = "list" ∨ method.name = "listNames" := by
  simp only [capability, List.mem_cons, List.not_mem_nil, or_false] at member
  rcases member with rfl | rfl | rfl | rfl
  · exact .inl rfl
  · exact .inr (.inl rfl)
  · exact .inr (.inr (.inl rfl))
  · exact .inr (.inr (.inr rfl))

end Calls

/-- What scripts are told of the inputs: their names, their values in the same order, and each value by its
name. -/
structure Tells (seen : VisibleInputs) (names : List String) (values : List Json) : Prop where
  ascending : names.Pairwise (· < ·)
  aligned : values.length = names.length
  listNames : ∀ call, call.method = "listNames" →
    (capability.invoke call seen).1 = .ok (some (.array (names.map .string)))
  list : ∀ call, call.method = "list" → (capability.invoke call seen).1 = .ok (some (.array values))
  get : ∀ (call : Call) (position : Nat) (name : String), call.method = "get" → call.text 0 = .ok name →
    names[position]? = some name → (capability.invoke call seen).1 = .ok values[position]?
  known : ∀ call name, call.method = "get" → call.text 0 = .ok name →
    ∃ found, (capability.invoke call seen).1 = .ok found ∧ (found.isSome = true ↔ name ∈ names)
  bound : ∀ call name, call.method = "exists" → call.text 0 = .ok name →
    ∃ found, (capability.invoke call seen).1 = .ok (some (.bool found)) ∧ (found = true ↔ name ∈ names)

theorem tells (seen : VisibleInputs) : seen.Tells seen.inputs.keys seen.inputs.values where
  ascending := seen.inputs.pairwise_keys
  aligned := by rw [Ascending.values, Ascending.keys, List.length_map, List.length_map]
  listNames call asks := by rw [invoke_listNames asks]
  list call asks := by rw [invoke_list asks]
  get call position name asks text placed := by
    rw [Ascending.keys, List.getElem?_map, Option.map_eq_some_iff] at placed
    obtain ⟨⟨_, value⟩, here, rfl⟩ := placed
    have found := (Ascending.mem_toList _).mp (List.mem_of_getElem? here)
    rw [invoke_get asks, text, Ascending.values, List.getElem?_map, here]
    exact congrArg Except.ok found
  known call name asks text := by
    refine ⟨seen.inputs.get? name, by rw [invoke_get asks, text]; rfl, ?_⟩
    rw [Ascending.mem_keys, Ascending.contains]
  bound call name asks text := by
    refine ⟨seen.inputs.contains name, by rw [invoke_exists asks, text]; rfl, ?_⟩
    rw [Ascending.mem_keys]

/-- The answer says nothing of the inputs but what the visible ones are. -/
inductive Discreet (inputs : Values) : Answer → Prop
  | refused (problem : CallError) : Discreet inputs (.error problem)
  | undefined : Discreet inputs (.ok none)
  | flag (found : Bool) : Discreet inputs (.ok (some (.bool found)))
  | value {name : String} {value : Json} (held : inputs.get? name = some value)
    (covers : InputKind.visible.Covers name value) : Discreet inputs (.ok (some value))
  | names {names : List String}
    (all : ∀ name ∈ names, ∃ value, inputs.get? name = some value ∧ InputKind.visible.Covers name value) :
    Discreet inputs (.ok (some (.array (names.map .string))))
  | values {values : List Json}
    (all : ∀ value ∈ values, ∃ name, inputs.get? name = some value ∧ InputKind.visible.Covers name value) :
    Discreet inputs (.ok (some (.array values)))

theorem discreet_invoke (inputs : Values) (call : Call) :
    Discreet inputs (capability.invoke call (ofInputs inputs)).1 ∧
      (capability.invoke call (ofInputs inputs)).2 = ofInputs inputs := by
  have held {name value} (found : (Fragment.strip inputs).get? name = some value) := (InputKind.get?_strip inputs).mp found
  rcases capability.invoke_cases call (ofInputs inputs) with unknown | ⟨method, member, named, -⟩
  · rw [unknown]
    exact ⟨.refused _, rfl⟩
  rcases method_mem member with asks | asks | asks | asks
  · rw [invoke_get (named ▸ asks)]
    refine ⟨?_, rfl⟩
    cases call.text 0 with
    | error problem => exact .refused problem
    | ok name =>
      change Discreet inputs (.ok ((Fragment.strip inputs).get? name))
      cases found : (Fragment.strip inputs).get? name with
      | none => exact .undefined
      | some value => exact .value (held found).1 (held found).2
  · rw [invoke_exists (named ▸ asks)]
    refine ⟨?_, rfl⟩
    cases call.text 0 with
    | error problem => exact .refused problem
    | ok name => exact .flag _
  · rw [invoke_list (named ▸ asks)]
    refine ⟨.values fun value member => ?_, rfl⟩
    obtain ⟨⟨name, _⟩, listed, rfl⟩ := List.mem_map.mp member
    exact ⟨name, held ((Ascending.mem_toList _).mp listed)⟩
  · rw [invoke_listNames (named ▸ asks)]
    refine ⟨.names fun name member => ?_, rfl⟩
    obtain ⟨⟨_, value⟩, listed, rfl⟩ := List.mem_map.mp member
    exact ⟨value, held ((Ascending.mem_toList _).mp listed)⟩

theorem discreet_converse (inputs : Values) (calls : List Call) :
    (∀ answer ∈ (capability.converse calls (ofInputs inputs)).1, Discreet inputs answer) ∧
      (capability.converse calls (ofInputs inputs)).2 = ofInputs inputs := by
  induction calls with
  | nil => exact ⟨nofun, rfl⟩
  | cons call rest ih =>
    obtain ⟨discreet, kept⟩ := discreet_invoke inputs call
    simp only [Capability.converse, kept]
    exact ⟨List.forall_mem_cons.mpr ⟨discreet, ih.1⟩, ih.2⟩

end VisibleInputs

/-- Every input takes one part, and what comes of the inputs of a part is as before when inputs of another are
added, changed or removed. Scripts are told the same inputs by name, one by one and in lists, and never one that
is not visible. -/
theorem inputs_keep_to_their_parts (inputs : Values) :
    (∀ name value, ∃! kind : InputKind, kind.Covers name value) ∧
    (∀ name value, (Fragment.strip inputs).get? name = some value ↔
      inputs.get? name = some value ∧ InputKind.visible.Covers name value) ∧
    (∀ kind after, Relation.ReflTransGen (InputKind.Edit kind) inputs after →
      (∀ phase, kind ≠ .fragment phase → Fragment.assemble after phase = Fragment.assemble inputs phase) ∧
      (kind ≠ .visible → VisibleInputs.ofInputs after = VisibleInputs.ofInputs inputs)) ∧
    (∃ names values, (VisibleInputs.ofInputs inputs).Tells names values ∧
      ∀ name, name ∈ names ↔ inputs.contains name = true ∧ ∀ phase : Phase, ¬phase.word.toList <+: name.toList) ∧
    ∀ calls, (∀ answer ∈ (VisibleInputs.capability.converse calls (.ofInputs inputs)).1,
        VisibleInputs.Discreet inputs answer) ∧
      (VisibleInputs.capability.converse calls (.ofInputs inputs)).2 = .ofInputs inputs := by
  refine ⟨?_, fun _ _ => InputKind.get?_strip inputs, ?_, ?_, VisibleInputs.discreet_converse inputs⟩
  · intro name value
    obtain ⟨kind, covers⟩ := InputKind.exists_covers name value
    exact ⟨kind, covers, fun other covered => covered.unique covers⟩
  · intro kind after edits
    refine ⟨?_, ?_⟩
    · intro phase differ
      exact (InputKind.agree_of_edits edits differ).assemble.symm
    · intro differ
      exact congrArg VisibleInputs.mk (InputKind.agree_of_edits edits differ).strip.symm
  · refine ⟨_, _, (VisibleInputs.ofInputs inputs).tells, ?_⟩
    intro name
    rw [Ascending.mem_keys, Ascending.contains, Ascending.contains, Option.isSome_iff_exists, Option.isSome_iff_exists]
    constructor
    · rintro ⟨value, found⟩
      obtain ⟨held, covers⟩ := (InputKind.get?_strip inputs).mp found
      exact ⟨⟨value, held⟩, covers⟩
    · rintro ⟨⟨value, held⟩, covers⟩
      exact ⟨value, (InputKind.get?_strip inputs).mpr ⟨held, covers⟩⟩

namespace InputKind

/-- Names within and around the reserved words. -/
def mixed : Values :=
  SortedMap.ofList [("prescript_1", .string "a"), ("prescript_flag", .bool true), ("postscript", .string "b"),
    ("prescrip", .string "c"), ("my prescript", .string "d")]

def rewritten : Values := (mixed.erase "prescript_1").insert "prescriptum" (.string "e")

theorem rewritten_script_is_not_seen :
    Relation.ReflTransGen (Edit (.fragment .pre)) mixed rewritten ∧ Fragment.assemble mixed .pre = "a" ∧
      Fragment.assemble rewritten .pre = "e" ∧ Fragment.assemble rewritten .post = Fragment.assemble mixed .post ∧
      VisibleInputs.ofInputs rewritten = VisibleInputs.ofInputs mixed := by
  have edits : Relation.ReflTransGen (Edit (.fragment .pre)) mixed rewritten :=
    .tail (.single (.remove rfl ⟨by decide, "a", rfl⟩)) (.add rfl ⟨by decide, "e", rfl⟩)
  obtain ⟨scripts, seen⟩ := (inputs_keep_to_their_parts mixed).2.2.1 (.fragment .pre) rewritten edits
  exact ⟨edits, rfl, rfl, scripts .post (by decide), seen (by decide)⟩

end InputKind
end ScriptedTask
