import Mathlib.Algebra.GroupWithZero.Nat
import Mathlib.Data.List.Forall2
import ScriptedTask.Proofs.Json.Shape
import ScriptedTask.Proofs.Overlay
import ScriptedTask.Proofs.Script.Costs
import ScriptedTask.Proofs.Script.Texts

/-! Values from outside on the heap of a script. Loading one makes new objects for its arrays and
objects and leaves all others as they are. -/

namespace ScriptedTask

open Text (Units)

namespace Json

/-- Bytes that a value takes where it is kept. -/
def place : Json → Nat
  | .string text => 32 + (Units.ofString text).size
  | _ => 0

/-- Bytes that items take in their array. -/
def placesOfItems (items : List Json) : Nat := (items.map fun item => 16 + item.place).sum

mutual
/-- Bytes that scripts need for a value, besides those of its own place. -/
def room : Json → Nat
  | .array items => roomOfItems items + (72 + placesOfItems items)
  | .object members => 72 + roomOfMembers members
  | _ => 0

def roomOfItems : List Json → Nat
  | [] => 0
  | item :: rest => item.room + roomOfItems rest

def roomOfMembers {lower : Option String} : Ascending Json lower → Nat
  | .nil => 0
  | .cons _ _ value rest => value.room + (value.place + 24) + roomOfMembers rest
end

end Json

namespace Script

namespace Plain

mutual
/-- A value from outside as plain data. Whole numbers that no double holds are rounded. -/
def ofJson : Json → Plain
  | .null => .null
  | .bool value => .bool value
  | .integer value _ => .number (Num.ofInt value)
  | .float value => .number (Num.ofFloat value)
  | .string content => .text (Units.ofString content)
  | .array items => .list (ofItems items)
  | .object members => .record (ofMembers members)

def ofItems : List Json → List Plain
  | [] => []
  | item :: rest => ofJson item :: ofItems rest

def ofMembers {lower : Option String} : Ascending Json lower → List Member
  | .nil => []
  | .cons name _ value rest => .mk (Units.ofString name) (ofJson value) :: ofMembers rest
end

end Plain

/-- The array that is made of values. -/
def arrayHolding (values : List Value) : Object :=
  { kind := .array (values.map some).toArray values.length, parent := some Place.arrayParent }

/-- The object that is made of keys and values. -/
def recordHolding (entries : List (Units × Value)) : Object :=
  { parent := some Place.objectParent, properties := (entries.map fun entry => (entry.1, Property.plain entry.2)).toArray }

/-- A value of a script is as a value from outside. Its objects are in the heap from `low` up to `high`,
those in an array before it and those in an object behind it. -/
inductive Shows (heap : Heap) : Nat → Nat → Json → Value → Prop
  | null {low high : Nat} : Shows heap low high .null .null
  | bool {low high : Nat} (value : Bool) : Shows heap low high (.bool value) (.bool value)
  | integer {low high : Nat} (value : Int) (inRange : InRange value) :
      Shows heap low high (.integer value inRange) (.number (Num.ofInt value))
  | float {low high : Nat} (value : Float) : Shows heap low high (.float value) (.number (Num.ofFloat value))
  | string {low high : Nat} (text : String) : Shows heap low high (.string text) (.text (Units.ofString text))
  | array {low high id : Nat} {items : List Json} {values : List Value} (above : low ≤ id) (below : id < high)
      (kept : heap.object id = arrayHolding values) (count : items.length = values.length)
      (each : ∀ index (inside : index < items.length) (placed : index < values.length),
        Shows heap low id (items.get ⟨index, inside⟩) (values.get ⟨index, placed⟩)) :
      Shows heap low high (.array items) (.object id)
  | object {low high id : Nat} {members : SortedMap Json} {entries : List (Units × Value)} (above : low ≤ id)
      (below : id < high) (kept : heap.object id = recordHolding entries)
      (names : entries.map Prod.fst = members.keys.map Units.ofString) (count : members.toList.length = entries.length)
      (each : ∀ index (inside : index < members.toList.length) (placed : index < entries.length),
        Shows heap (id + 1) high (members.toList.get ⟨index, inside⟩).2 (entries.get ⟨index, placed⟩).2) :
      Shows heap low high (.object members) (.object id)

namespace Shows

variable {heap later : Heap} {low high lower higher : Nat} {json : Json} {value : Value}

/-- A value is shown as long as its objects stay as they are. -/
theorem frame (shown : Shows heap low high json value) (wide : lower ≤ low ∧ high ≤ higher)
    (same : ∀ id, low ≤ id → id < high → later.object id = heap.object id) : Shows later lower higher json value := by
  induction shown generalizing lower higher with
  | null => exact .null
  | bool value => exact .bool value
  | integer value inRange => exact .integer value inRange
  | float value => exact .float value
  | string text => exact .string text
  | array above below kept count each ih =>
    refine .array (Nat.le_trans wide.1 above) (Nat.lt_of_lt_of_le below wide.2) ((same _ above below).trans kept) count ?_
    intro index inside placed
    exact ih index inside placed ⟨wide.1, Nat.le_refl _⟩ fun id from_ before => same id from_ (Nat.lt_trans before below)
  | object above below kept names count each ih =>
    refine .object (Nat.le_trans wide.1 above) (Nat.lt_of_lt_of_le below wide.2) ((same _ above below).trans kept) names count ?_
    intro index inside placed
    refine ih index inside placed ⟨Nat.le_refl _, wide.2⟩ fun id from_ before => same id ?_ before
    exact Nat.le_trans above (Nat.le_trans (Nat.le_succ _) from_)

theorem size (shown : Shows heap low high json value) : Eval.sizeOfValue value = json.place := by
  cases shown <;> rfl

end Shows

namespace Heap

variable {heap middle later : Heap}

/-- Objects are only added. -/
structure Keeps (heap later : Heap) : Prop where
  size : heap.objects.size ≤ later.objects.size
  same : ∀ id < heap.objects.size, later.object id = heap.object id

theorem Keeps.of_objects (same : later.objects = heap.objects) : heap.Keeps later :=
  ⟨Nat.le_of_eq (congrArg Array.size same.symm), fun id _ => by rw [object, same, object]⟩

theorem Keeps.trans (first : heap.Keeps middle) (second : middle.Keeps later) : heap.Keeps later where
  size := Nat.le_trans first.size second.size
  same id inside := (second.same id (Nat.lt_of_lt_of_le inside first.size)).trans (first.same id inside)

theorem object_push {object : Object} (pushed : later.objects = heap.objects.push object) :
    later.objects.size = heap.objects.size + 1 ∧ later.object heap.objects.size = object ∧ heap.Keeps later := by
  refine ⟨by rw [pushed, Array.size_push], ?_, ?_, ?_⟩
  · rw [Heap.object, pushed]
    simp
  · rw [pushed, Array.size_push]
    exact Nat.le_succ _
  · intro id inside
    rw [Heap.object, pushed, Heap.object]
    simp [Array.getElem?_push, Nat.ne_of_lt inside]

/-- An object was changed, and nothing else. -/
structure Changes (heap later : Heap) (id : Nat) (changed : Object) : Prop where
  size : later.objects.size = heap.objects.size
  here : later.object id = changed
  others : ∀ other, other ≠ id → later.object other = heap.object other

theorem changes_changeObject (heap : Heap) {id : Nat} (inside : id < heap.objects.size) (change : Object → Object) :
    heap.Changes (heap.changeObject id change) id (change (heap.object id)) where
  size := by simp [changeObject]
  here := by simp [changeObject, object, inside, Array.getElem_modify_self]
  others other differ := by
    simp [changeObject, object, Array.getElem?_modify, Ne.symm differ]

theorem Changes.of_objects {id : Nat} {changed : Object} (changes : middle.Changes later id changed)
    (same : middle.objects = heap.objects) : heap.Changes later id changed where
  size := changes.size.trans (congrArg Array.size same)
  here := changes.here
  others other differ := (changes.others other differ).trans (by rw [object, same, object])

end Heap

namespace Eval

theorem costs_add (object : Object) (heap : Heap) : Costs (update fun heap => heap.add object) heap 0 0
    fun id later => id = heap.objects.size ∧ later.objects = heap.objects.push object :=
  .of_done rfl ⟨Nat.le_refl _, Nat.le_refl _, rfl⟩ ⟨rfl, rfl⟩

theorem costs_newObject (object : Object) (heap : Heap) : Costs (newObject object) heap 0 (72 + 24 * object.properties.size)
    fun id later => id = heap.objects.size ∧ later.objects = heap.objects.push object := by
  unfold newObject
  refine (costs_charge _ heap).bind 0 0 ⟨Nat.le_refl _, Nat.le_refl _⟩ fun _ charged same => ?_
  refine (costs_add object charged).imp ?_
  rw [same]
  exact fun _ _ added => added

theorem costs_newArray (values : List Value) (heap : Heap) :
    Costs (newArray values) heap 0 (72 + sizeOfItems (values.map some))
      fun value later => value = .object heap.objects.size ∧ later.objects = heap.objects.push (arrayHolding values) := by
  unfold newArray
  refine (costs_charge _ heap).bind 0 0 ⟨Nat.le_refl _, Nat.le_refl _⟩ fun _ charged same => ?_
  refine (costs_add _ charged).bind 0 0 ⟨Nat.le_refl _, Nat.le_refl _⟩ ?_
  rintro _ later ⟨rfl, added⟩
  rw [same] at added ⊢
  refine costs_pure ⟨rfl, added.trans ?_⟩
  simp [arrayHolding]

section Records

variable {entries : List (Units × Value)} {key : Units}

theorem find?_recordHolding (entries : List (Units × Value)) (key : Units) : (recordHolding entries).find? key =
    (entries.find? fun entry => entry.1.same key).map fun entry => Property.plain entry.2 := by
  simp only [Object.find?, recordHolding, List.find?_toArray, List.find?_map, Option.map_map]
  rfl

theorem put_recordHolding (fresh : key ∉ entries.map Prod.fst) (value : Value) :
    (recordHolding entries).put key (.plain value) = recordHolding (entries ++ [(key, value)]) := by
  have missing : (entries.map fun entry => (entry.1, Property.plain entry.2)).toArray.findIdx?
      (fun entry => entry.1.same key) = none := by
    simp only [List.findIdx?_toArray, List.findIdx?_eq_none_iff, List.mem_map, forall_exists_index, and_imp]
    rintro _ entry member rfl
    refine Bool.eq_false_iff.mpr fun same => fresh ?_
    rw [← Text.Units.same_iff.mp same]
    exact List.mem_map_of_mem member
  simp only [recordHolding, Object.put, missing]
  simp

theorem costs_define {heap : Heap} {id : Nat} (inside : id < heap.objects.size) (kept : heap.object id = recordHolding entries)
    (fresh : key ∉ entries.map Prod.fst) (value : Value) : Costs (define id key value) heap 0 (sizeOfValue value + 24)
      fun _ later => heap.Changes later id (recordHolding (entries ++ [(key, value)])) := by
  have isNew : ((recordHolding entries).find? key).isNone = true := by
    rw [find?_recordHolding, Option.isNone_map, Option.isNone_iff_eq_none, List.find?_eq_none]
    intro entry member same
    rw [Text.Units.same_iff] at same
    exact fresh (same ▸ List.mem_map_of_mem member)
  unfold define
  refine (costs_look _ heap).bind 0 (sizeOfValue value + 24) ⟨Nat.le_refl _, by omega⟩ ?_
  rintro _ _ ⟨rfl, rfl⟩
  rw [kept]
  change Costs (store id key (.plain value) _) heap _ _ _
  rw [isNew]
  unfold store
  refine (costs_charge _ heap).bind 0 0 ⟨Nat.le_refl _, Nat.le_refl _⟩ fun _ charged same => ?_
  refine (costs_change _ charged ⟨Nat.le_refl _, Nat.le_refl _, rfl⟩).imp ?_
  rintro _ _ rfl
  have here : charged.object id = recordHolding entries := by rw [Heap.object, same, ← kept, Heap.object]
  rw [← put_recordHolding fresh, ← here]
  exact (charged.changes_changeObject (same ▸ inside) _).of_objects same

end Records

/-! Loading -/

/-- What a value comes to that is loaded. -/
def Loaded (json : Json) (heap : Heap) (value : Value) (later : Heap) : Prop :=
  Shows later heap.objects.size later.objects.size json value ∧ heap.Keeps later

/-- What is shown in new objects stays so when others are added. -/
theorem Loaded.later {json : Json} {heap middle later : Heap} {value : Value} (loaded : Loaded json heap value middle)
    (kept : middle.Keeps later) : Loaded json heap value later :=
  ⟨loaded.1.frame ⟨Nat.le_refl _, kept.size⟩ fun id _ below => kept.same id below, loaded.2.trans kept⟩

/-- What was loaded later is shown in objects that are new from before on. -/
theorem Loaded.since {json : Json} {heap middle later : Heap} {value : Value} (loaded : Loaded json middle value later)
    (kept : heap.Keeps middle) : Loaded json heap value later :=
  ⟨loaded.1.frame ⟨kept.size, Nat.le_refl _⟩ fun _ _ _ => rfl, kept.trans loaded.2⟩

/-- Loading a value comes to it, from any heap that has the room. -/
def Loads (json : Json) : Prop := ∀ heap, Costs (load (Plain.ofJson json)) heap 0 json.room (Loaded json heap)

theorem costs_loadItems {items : List Json} (each : ∀ item ∈ items, Loads item) (done : List Value) (heap : Heap) :
    Costs (loadItems done (Plain.ofItems items)) heap 0 (Json.roomOfItems items) fun values later =>
      ∃ made, values = done.reverse ++ made ∧ List.Forall₂ (Loaded · heap · later) items made ∧ heap.Keeps later := by
  induction items generalizing done heap with
  | nil => exact costs_pure ⟨[], (List.append_nil _).symm, .nil, .of_objects rfl⟩
  | cons item rest ih =>
    rw [List.forall_mem_cons] at each
    refine (each.1 heap).bind 0 (Json.roomOfItems rest) ⟨Nat.le_refl _, Nat.le_refl _⟩ fun value middle loaded => ?_
    refine (ih each.2 (value :: done) middle).imp ?_
    rintro _ later ⟨made, rfl, others, kept⟩
    refine ⟨value :: made, by simp, .cons (loaded.later kept) ?_, loaded.2.trans kept⟩
    exact others.imp fun _ _ other => other.since loaded.2

theorem sizeOfItems_eq {items : List Json} {values : List Value}
    (sizes : List.Forall₂ (fun item value => sizeOfValue value = Json.place item) items values) :
    sizeOfItems (values.map some) = Json.placesOfItems items := by
  have from_ : ∀ start, (values.map some).foldl (fun size item => size + 16 + (item.map sizeOfValue).getD 0) start =
      start + Json.placesOfItems items := by
    induction sizes with
    | nil => simp [Json.placesOfItems]
    | cons same _ ih =>
      intro start
      rw [List.map_cons, List.foldl_cons, ih]
      simp [Json.placesOfItems, same, Nat.add_assoc]
  exact (from_ 0).trans (Nat.zero_add _)

theorem loads_array {items : List Json} (each : ∀ item ∈ items, Loads item) : Loads (.array items) := by
  intro heap
  rw [Plain.ofJson, load, Json.room]
  refine (costs_loadItems each [] heap).bind 0 _ ⟨Nat.le_refl _, Nat.le_refl _⟩ ?_
  rintro values middle ⟨_, rfl, loaded, kept⟩
  have sizes := sizeOfItems_eq (loaded.imp fun _ _ one => one.1.size)
  rw [← sizes]
  refine (costs_newArray values middle).imp ?_
  rintro _ later ⟨rfl, added⟩
  obtain ⟨size, here, more⟩ := Heap.object_push added
  refine ⟨.array kept.size (by omega) here loaded.length_eq ?_, kept.trans more⟩
  intro index inside placed
  have one := (List.forall₂_iff_get.mp loaded).2 index inside placed
  exact one.1.frame ⟨Nat.le_refl _, Nat.le_refl _⟩ fun id _ below => more.same id below

/-- Members are kept where they are told to, behind those that are there. -/
theorem costs_loadMembers {lower : Option String} {members : Ascending Json lower} {done : List (Units × Value)} {id : Nat}
    (each : ∀ member ∈ members.toList, Loads member.2) (heap : Heap) (inside : id < heap.objects.size)
    (kept : heap.object id = recordHolding done) (fresh : ∀ member ∈ members.toList, Units.ofString member.1 ∉ done.map Prod.fst) :
    Costs (loadMembers id (Plain.ofMembers members)) heap 0 (Json.roomOfMembers members) fun _ later =>
      ∃ made, later.object id = recordHolding (done ++ made) ∧ made.map Prod.fst = members.keys.map Units.ofString ∧
        List.Forall₂ (fun member entry => Shows later heap.objects.size later.objects.size member.2 entry.2)
          members.toList made ∧
        heap.objects.size ≤ later.objects.size ∧
        ∀ other < heap.objects.size, other ≠ id → later.object other = heap.object other := by
  induction members generalizing done heap with
  | nil => exact costs_pure ⟨[], by rw [List.append_nil, kept], rfl, .nil, Nat.le_refl _, fun _ _ _ => rfl⟩
  | cons name above value rest ih =>
    simp only [Ascending.toList, List.forall_mem_cons] at each fresh
    rw [Plain.ofMembers, loadMembers, Json.roomOfMembers]
    refine (each.1 heap).bind 0 (value.place + 24 + Json.roomOfMembers rest) ⟨Nat.le_refl _, by omega⟩
      fun first loaded here => ?_
    have still : loaded.object id = recordHolding done := (here.2.same id inside).trans kept
    have within : id < loaded.objects.size := Nat.lt_of_lt_of_le inside here.2.size
    have place := here.1.size
    refine (costs_define within still fresh.1 first).bind 0 (Json.roomOfMembers rest) ⟨Nat.le_refl _, by omega⟩
      fun _ defined changes => ?_
    have others : ∀ member ∈ rest.toList, Units.ofString member.1 ∉ (done ++ [(Units.ofString name, first)]).map Prod.fst := by
      intro member inRest
      have differ : member.1 ≠ name := fun same => String.lt_irrefl name (same ▸ rest.toList_above member inRest)
      simpa [Text.Units.ofString_inj, differ] using fresh.2 member inRest
    refine (ih each.2 defined (changes.size ▸ within) changes.here others).imp ?_
    rintro _ later ⟨made, whole, names, shown, grown, same⟩
    have size := changes.size
    have unmoved : ∀ other < loaded.objects.size, other ≠ id → later.object other = loaded.object other :=
      fun other below away => (same other (size ▸ below) away).trans (changes.others other away)
    refine ⟨(Units.ofString name, first) :: made, by simp [whole], by simp [Ascending.keys, Ascending.toList, names], ?_, ?_, ?_⟩
    · refine .cons (here.1.frame ⟨Nat.le_refl _, by omega⟩ fun other from_ below => unmoved other below (by omega)) ?_
      have grew := here.2.size
      exact shown.imp fun _ _ one => one.frame ⟨by omega, Nat.le_refl _⟩ fun _ _ _ => rfl
    · have grew := here.2.size
      omega
    · intro other below away
      exact (unmoved other (Nat.lt_of_lt_of_le below here.2.size) away).trans (here.2.same other below)

theorem loads_object {members : SortedMap Json} (each : ∀ member ∈ members.toList, Loads member.2) :
    Loads (.object members) := by
  intro heap
  rw [Plain.ofJson, load, Json.room]
  refine (costs_newObject _ heap).bind 0 (Json.roomOfMembers members) ⟨Nat.le_refl _, Nat.le_refl _⟩ ?_
  rintro _ middle ⟨rfl, added⟩
  obtain ⟨size, here, kept⟩ := Heap.object_push added
  have empty : middle.object heap.objects.size = recordHolding [] := here
  refine (costs_loadMembers each middle (by omega) empty (by simp)).bind 0 0 ⟨Nat.le_refl _, Nat.le_refl _⟩ ?_
  rintro _ later ⟨entries, whole, names, shown, grown, same⟩
  refine costs_pure ⟨.object (Nat.le_refl _) (by omega) whole names shown.length_eq ?_, by omega, ?_⟩
  · intro index inside placed
    rw [← size]
    exact (List.forall₂_iff_get.mp shown).2 index inside placed
  · intro other below
    exact (same other (by omega) (by omega)).trans (kept.same other below)

/-- All plain data of a value from outside can be loaded. -/
theorem loads (json : Json) : Loads json := by
  induction json using Json.induct with
  | null => exact fun heap => costs_pure ⟨.null, .of_objects rfl⟩
  | bool value => exact fun heap => costs_pure ⟨.bool value, .of_objects rfl⟩
  | integer value inRange => exact fun heap => costs_pure ⟨.integer value inRange, .of_objects rfl⟩
  | float value => exact fun heap => costs_pure ⟨.float value, .of_objects rfl⟩
  | string text => exact fun heap => costs_pure ⟨.string text, .of_objects rfl⟩
  | array items ih => exact loads_array ih
  | object members ih => exact loads_object ih

end Eval

end Script
end ScriptedTask
