import Mathlib.Algebra.Order.BigOperators.Group.List
import Mathlib.Algebra.Order.Group.Nat
import Mathlib.Data.List.Nodup
import ScriptedTask.Proofs.Json.Spelling
import ScriptedTask.Proofs.Script.Shown

/-! The text that a script writes for a value from outside spells that value: the members may have
changed places, but whoever reads the text has the value again. -/

namespace ScriptedTask

open Text (Units)

namespace Json

mutual
/-- The numbers in a value are whole numbers that scripts have as they are. -/
def isSafe : Json → Bool
  | .integer value _ => Script.Num.isSafe value
  | .float _ => false
  | .array items => areSafe items
  | .object members => membersSafe members
  | _ => true

def areSafe : List Json → Bool
  | [] => true
  | item :: rest => item.isSafe && areSafe rest

def membersSafe {lower : Option String} : Ascending Json lower → Bool
  | .nil => true
  | .cons _ _ value rest => value.isSafe && membersSafe rest
end

mutual
/-- Work that writing a value takes. -/
def work : Json → Nat
  | .array items => 1 + items.length + workOfItems items
  | .object members => 1 + members.toList.length / 16 + workOfMembers (members.toList.length / 16) members
  | _ => 1

def workOfItems : List Json → Nat
  | [] => 0
  | item :: rest => item.work + workOfItems rest

/-- Each member is searched for. -/
def workOfMembers {lower : Option String} (search : Nat) : Ascending Json lower → Nat
  | .nil => 0
  | .cons _ _ value rest => search + value.work + workOfMembers search rest
end

theorem isSafe_array {items : List Json} : (Json.array items).isSafe = true ↔ ∀ item ∈ items, item.isSafe = true := by
  rw [isSafe]
  induction items with
  | nil => simp [areSafe]
  | cons item rest ih => simp [areSafe, ih]

theorem membersSafe_iff {lower : Option String} {members : Ascending Json lower} :
    membersSafe members = true ↔ ∀ member ∈ members.toList, member.2.isSafe = true := by
  induction members with
  | nil => simp [membersSafe, Ascending.toList]
  | cons name above value rest ih => simp [membersSafe, Ascending.toList, ih]

theorem isSafe_object {members : SortedMap Json} :
    (Json.object members).isSafe = true ↔ ∀ member ∈ members.toList, member.2.isSafe = true := by
  rw [isSafe, membersSafe_iff]

theorem work_le_of_item {items : List Json} {item : Json} (inside : item ∈ items) : item.work ≤ (Json.array items).work := by
  have summed : item.work ≤ workOfItems items := by
    induction inside with
    | head => exact Nat.le_add_right _ _
    | tail _ _ ih => exact Nat.le_trans ih (Nat.le_add_left _ _)
  rw [work]
  omega

theorem workOfMembers_eq {lower : Option String} (search : Nat) (members : Ascending Json lower) :
    workOfMembers search members = (members.toList.map fun member => search + member.2.work).sum := by
  induction members with
  | nil => rfl
  | cons name above value rest ih => rw [workOfMembers, ih, Ascending.toList, List.map_cons, List.sum_cons]

theorem work_le_of_member {members : SortedMap Json} {member : String × Json} (inside : member ∈ members.toList) :
    member.2.work ≤ (Json.object members).work := by
  have among := List.mem_map_of_mem (f := fun member : String × Json => members.toList.length / 16 + member.2.work) inside
  have summed := List.le_sum_of_mem among
  rw [work, workOfMembers_eq]
  omega

/-- What a script can hand out as it is. -/
structure Portable (value : Json) : Prop where
  safe : value.isSafe = true
  shallow : value.depth ≤ nestingLimit
  short : Script.Num.isSafe value.work = true

theorem portable_string (text : String) : Portable (.string text) where
  safe := rfl
  shallow := Nat.zero_le _
  short := by simp [work, Script.Num.isSafe]

end Json

namespace Script

/-- A text as a script has it. -/
def unitsOf (text : List Char) : Units := (Text.Units.encode text).toArray

theorem quote_unitsOf (text : String) : Eval.quote (Units.ofString text) = unitsOf (Json.quote text.toList) :=
  Array.toList_inj.mp (Eval.quote_ofString text)

section Brackets

open Json

theorem foldl_enclosedRest (closing : Char) (texts : List (List Char)) (done : Units) :
    ((texts.map unitsOf).foldl (fun text part => text.push 44 ++ part) done).toList ++ Text.Units.encode [closing] =
      done.toList ++ Text.Units.encode (enclosedRest closing [] [] texts) := by
  induction texts generalizing done with
  | nil => rfl
  | cons text rest ih =>
    have comma : Text.Units.encode [','] = [44] := rfl
    rw [List.map_cons, List.foldl_cons, ih, enclosedRest, Text.Units.encode_append, Text.Units.encode_append, comma]
    simp [unitsOf]

/-- Parts between brackets, without an indentation. -/
theorem bracketed_unitsOf {outer inner : Units} {opening closing : Char} {first last : UInt16}
    (opens : Text.Units.encode [opening] = [first]) (closes : Text.Units.encode [closing] = [last])
    (texts : List (List Char)) :
    Eval.bracketed {} outer inner first last (texts.map unitsOf) = unitsOf (opening :: enclosed closing [] [] texts) := by
  apply Array.toList_inj.mp
  rw [unitsOf, ← List.singleton_append, Text.Units.encode_append, opens]
  cases texts with
  | nil =>
    rw [enclosed, closes]
    rfl
  | cons text rest =>
    have folded := foldl_enclosedRest closing rest (#[first] ++ unitsOf text)
    rw [closes] at folded
    simpa [Eval.bracketed, enclosed, Text.Units.encode_append, unitsOf] using folded

end Brackets

namespace Heap

variable {heap later : Heap}

theorem object_congr (same : later.objects = heap.objects) (id : Nat) : later.object id = heap.object id := by
  rw [object, same, object]

theorem isFunction_congr (same : later.objects = heap.objects) (value : Value) :
    later.isFunction value = heap.isFunction value := by
  cases value with
  | object id => rw [isFunction, object_congr same, isFunction]
  | _ => rfl

theorem property?_congr (same : later.objects = heap.objects) (id : Nat) (key : Units) :
    later.property? id key = heap.property? id key := by
  have found : ∀ fuel id, later.findProperty? fuel id key = heap.findProperty? fuel id key := by
    intro fuel
    induction fuel with
    | zero => exact fun _ => rfl
    | succ fuel ih =>
      intro id
      simp only [findProperty?, object_congr same, ih]
  rw [property?, same, found, property?]

/-- What reading a property gives, if no function answers. -/
def Answers (heap : Heap) (id : Nat) (key : Units) (value : Value) : Prop :=
  (heap.property? id key = none ∧ value = .undefined) ∨
    ∃ writable enumerable configurable, heap.property? id key = some ⟨.data value writable, enumerable, configurable⟩

theorem Answers.of_objects {id : Nat} {key : Units} {value : Value} (answers : heap.Answers id key value)
    (same : later.objects = heap.objects) : later.Answers id key value := by
  rw [Answers, property?_congr same]
  exact answers

def toJsonKey : Units := Units.ofAscii "toJSON"

/-- Arrays and objects do not inherit a way to write themselves. -/
structure Silent (heap : Heap) : Prop where
  inside : Place.arrayParent < heap.objects.size
  objects : (heap.object Place.objectParent).own? toJsonKey = none ∧ (heap.object Place.objectParent).parent = none
  arrays : (heap.object Place.arrayParent).own? toJsonKey = none ∧
    (heap.object Place.arrayParent).parent = some Place.objectParent

theorem Silent.of_keeps (silent : heap.Silent) (kept : heap.Keeps later) : later.Silent where
  inside := Nat.lt_of_lt_of_le silent.inside kept.size
  objects := by
    rw [kept.same _ (Nat.lt_trans (by decide) silent.inside)]
    exact silent.objects
  arrays := by
    rw [kept.same _ silent.inside]
    exact silent.arrays

theorem Silent.of_objects (silent : heap.Silent) (same : later.objects = heap.objects) : later.Silent :=
  silent.of_keeps (.of_objects same)

theorem property?_own {id : Nat} {key : Units} {property : Property} (own : (heap.object id).own? key = some property) :
    heap.property? id key = some property := by
  rw [property?, findProperty?, own]

theorem Silent.property?_record (silent : heap.Silent) {id : Nat} (own : (heap.object id).own? toJsonKey = none)
    (parent : (heap.object id).parent = some Place.objectParent) : heap.property? id toJsonKey = none := by
  obtain ⟨fuel, size⟩ : ∃ fuel, heap.objects.size = fuel + 1 :=
    Nat.exists_eq_add_one.mpr (Nat.lt_of_le_of_lt (Nat.zero_le _) silent.inside)
  rw [property?, size, findProperty?, own, parent]
  simp only [findProperty?, silent.objects]

theorem Silent.property?_array (silent : heap.Silent) {id : Nat} (own : (heap.object id).own? toJsonKey = none)
    (parent : (heap.object id).parent = some Place.arrayParent) : heap.property? id toJsonKey = none := by
  obtain ⟨fuel, size⟩ : ∃ fuel, heap.objects.size = fuel + 2 := by
    have inside : 3 < heap.objects.size := silent.inside
    exact ⟨heap.objects.size - 2, by omega⟩
  rw [property?, size, findProperty?, own, parent]
  simp only [findProperty?, silent.arrays, silent.objects]

end Heap

theorem Shows.of_objects {heap later : Heap} {low high : Nat} {json : Json} {value : Value}
    (shown : Shows heap low high json value) (same : later.objects = heap.objects) : Shows later low high json value :=
  shown.frame ⟨Nat.le_refl _, Nat.le_refl _⟩ fun id _ _ => Heap.object_congr same id

namespace Eval

variable {heap : Heap} {low high id : Nat} {json : Json} {value answer : Value} {key : Units}

theorem costs_get (answers : heap.Answers id key answer) : Costs (get (.object id) key) heap
    ((heap.object id).properties.size / 16) 0 fun found later => found = answer ∧ later.objects = heap.objects := by
  rw [get, getFrom, search]
  have searched : Costs (do spend ((← look fun heap => (heap.object id).properties.size) / 16)) heap
      ((heap.object id).properties.size / 16) 0 fun _ later => later.objects = heap.objects := by
    refine (costs_look _ heap).bind ((heap.object id).properties.size / 16) 0 ⟨by omega, Nat.le_refl _⟩ ?_
    rintro _ _ ⟨rfl, rfl⟩
    exact costs_spend _ _
  refine searched.bind 0 0 ⟨Nat.le_refl _, Nat.le_refl _⟩ fun _ later same => ?_
  refine (costs_look _ later).bind 0 0 ⟨Nat.le_refl _, Nat.le_refl _⟩ ?_
  rintro _ _ ⟨rfl, rfl⟩
  simp only [Heap.property?_congr same]
  rcases answers with ⟨missing, rfl⟩ | ⟨writable, enumerable, configurable, found⟩
  · rw [missing]
    exact costs_pure ⟨rfl, same⟩
  · rw [found]
    exact costs_pure ⟨rfl, same⟩

theorem not_isFunction (shown : Shows heap low high json value) : heap.isFunction value = false := by
  cases shown with
  | array above below kept =>
    rw [Heap.isFunction, kept]
    rfl
  | object above below kept =>
    rw [Heap.isFunction, kept]
    rfl
  | _ => rfl

section Entries

variable {entries : List (Units × Value)} {entry : Units × Value}

theorem own?_recordHolding (entries : List (Units × Value)) (key : Units) : (recordHolding entries).own? key =
    (entries.find? fun entry => entry.1.same key).map fun entry => Property.plain entry.2 :=
  find?_recordHolding entries key

theorem find?_entry (distinct : (entries.map Prod.fst).Nodup) (member : entry ∈ entries) :
    entries.find? (fun other => other.1.same entry.1) = some entry := by
  cases found : entries.find? fun other => other.1.same entry.1 with
  | none => exact absurd (Text.Units.same_iff.mpr rfl) (List.find?_eq_none.mp found entry member)
  | some other =>
    have same : other.1 = entry.1 := Text.Units.same_iff.mp (by simpa using List.find?_some found)
    rw [List.inj_on_of_nodup_map distinct (List.mem_of_find?_eq_some found) member same]

theorem answers_entry (kept : heap.object id = recordHolding entries) (distinct : (entries.map Prod.fst).Nodup)
    (member : entry ∈ entries) : heap.Answers id entry.1 entry.2 := by
  refine .inr ⟨true, true, true, Heap.property?_own ?_⟩
  rw [kept, own?_recordHolding, find?_entry distinct member]
  rfl

end Entries

theorem own?_arrayHolding (values : List Value) : (arrayHolding values).own? Heap.toJsonKey = none := by
  have noIndex : indexOf? Heap.toJsonKey = none := by decide +kernel
  have noLength : Heap.toJsonKey.same (Units.ofAscii "length") = false := by decide +kernel
  simp only [Object.own?, arrayHolding, noIndex, noLength]
  rfl

/-- What an array or object has for a way to write itself is none. -/
theorem answers_toJson (shown : Shows heap low high json (.object id)) (silent : heap.Silent) :
    ∃ answer, heap.Answers id Heap.toJsonKey answer ∧ heap.isFunction answer = false := by
  cases shown with
  | @array _ _ _ items values above below kept =>
    have own : (heap.object id).own? Heap.toJsonKey = none := by rw [kept, own?_arrayHolding]
    exact ⟨.undefined, .inl ⟨silent.property?_array own (by rw [kept]; rfl), rfl⟩, rfl⟩
  | @object _ _ _ members entries above below kept names count each =>
    cases found : entries.find? fun entry => entry.1.same Heap.toJsonKey with
    | none =>
      have own : (heap.object id).own? Heap.toJsonKey = none := by
        rw [kept, own?_recordHolding, found]
        rfl
      exact ⟨.undefined, .inl ⟨silent.property?_record own (by rw [kept]; rfl), rfl⟩, rfl⟩
    | some entry =>
      have own : (heap.object id).own? Heap.toJsonKey = some (.plain entry.2) := by
        rw [kept, own?_recordHolding, found]
        rfl
      obtain ⟨⟨index, inside⟩, rfl⟩ := List.mem_iff_get.mp (List.mem_of_find?_eq_some found)
      have here := each index (by omega) inside
      exact ⟨_, .inr ⟨true, true, true, Heap.property?_own own⟩, not_isFunction here⟩

/-- The work of looking for one member. -/
def searchOf : Json → Nat
  | .object members => members.toList.length / 16
  | _ => 0

theorem size_properties (shown : Shows heap low high json (.object id)) :
    (heap.object id).properties.size / 16 = searchOf json := by
  cases shown with
  | array above below kept =>
    rw [kept]
    exact Nat.zero_div 16
  | object above below kept names count =>
    rw [kept, recordHolding, searchOf, count]
    simp

/-- A value does not speak for itself. -/
theorem costs_answerOf (shown : Shows heap low high json value) (silent : heap.Silent) (key : Units) :
    Costs (answerOf key value) heap (searchOf json) 0 fun found later => found = value ∧ later.objects = heap.objects := by
  rw [answerOf]
  cases value with
  | object id =>
    obtain ⟨method, answers, notFunction⟩ := answers_toJson shown silent
    have got := costs_get answers
    rw [size_properties shown] at got
    refine got.bind 0 0 ⟨Nat.le_refl _, Nat.le_refl _⟩ ?_
    rintro _ middle ⟨rfl, same⟩
    refine (costs_look _ middle).bind 0 0 ⟨Nat.le_refl _, Nat.le_refl _⟩ ?_
    rintro _ _ ⟨rfl, rfl⟩
    rw [Heap.isFunction_congr same, notFunction]
    exact costs_pure ⟨rfl, same⟩
  | _ => exact costs_pure ⟨rfl, rfl⟩

theorem costs_unboxed (shown : Shows heap low high json value) :
    Costs (unboxed value) heap 0 0 fun found later => found = value ∧ later.objects = heap.objects := by
  unfold unboxed
  cases shown with
  | array above below kept =>
    refine (costs_look _ heap).bind 0 0 ⟨Nat.le_refl _, Nat.le_refl _⟩ ?_
    rintro _ _ ⟨rfl, rfl⟩
    rw [kept]
    exact costs_pure ⟨rfl, rfl⟩
  | object above below kept =>
    refine (costs_look _ heap).bind 0 0 ⟨Nat.le_refl _, Nat.le_refl _⟩ ?_
    rintro _ _ ⟨rfl, rfl⟩
    rw [kept]
    exact costs_pure ⟨rfl, rfl⟩
  | _ => exact costs_pure ⟨rfl, rfl⟩

theorem costs_lengthOf {values : List Value} (kept : heap.object id = arrayHolding values)
    (safe : Num.isSafe values.length = true) : Costs (lengthOf (.object id)) heap 0 0 fun length later =>
      length = values.length ∧ later.objects = heap.objects := by
  have answers : heap.Answers id lengthKey (.number (.int values.length)) := by
    refine .inr ⟨true, false, false, Heap.property?_own ?_⟩
    have noIndex : indexOf? lengthKey = none := by decide +kernel
    have itself : lengthKey.same (Units.ofAscii "length") = true := by decide +kernel
    rw [kept]
    simp only [Object.own?, arrayHolding, noIndex, itself, Value.int, Num.ofInt, safe, if_true]
    rfl
  have quick : (heap.object id).properties.size / 16 = 0 := by
    rw [kept]
    exact Nat.zero_div 16
  have got := costs_get answers
  rw [quick] at got
  rw [lengthOf]
  refine got.bind 0 0 ⟨Nat.le_refl _, Nat.le_refl _⟩ ?_
  rintro _ later ⟨rfl, same⟩
  exact costs_pure ⟨rfl, same⟩

theorem costs_getItem {values : List Value} (kept : heap.object id = arrayHolding values) {index : Nat}
    (placed : index < values.length) : Costs (getItem (.object id) index) heap 0 0 fun found later =>
      found = values.get ⟨index, placed⟩ ∧ later.objects = heap.objects := by
  have quick : quickItem? heap (.object id) index = some (values.get ⟨index, placed⟩) := by
    rw [quickItem?, kept]
    simp [arrayHolding, placed]
  have looked : Costs Eval.heap heap 0 0 fun found later => found = heap ∧ later = heap := costs_look (fun heap => heap) heap
  unfold getItem
  refine looked.bind 0 0 ⟨Nat.le_refl _, Nat.le_refl _⟩ ?_
  rintro _ _ ⟨rfl, rfl⟩
  rw [quick]
  exact costs_pure ⟨rfl, rfl⟩

section Parts

variable {write : Value → Units → Value → Eval (Option Units)} {text : Json → List Char} {first : Heap}

/-- The items of an array from some index on. -/
theorem costs_itemTexts {values : List Value} (kept : heap.object id = arrayHolding values) (items : List Json) (start : Nat)
    (count : start + items.length ≤ values.length) (done : List Units)
    (each : ∀ offset (inside : offset < items.length) (placed : start + offset < values.length) (later : Heap),
      later.objects = heap.objects →
      Costs (write (.object id) (indexKey (start + offset)) (values.get ⟨start + offset, placed⟩)) later
        (items.get ⟨offset, inside⟩).work 0 fun found last =>
          found = some (unitsOf (text (items.get ⟨offset, inside⟩))) ∧ last.objects = heap.objects)
    (same : first.objects = heap.objects) :
    Costs (itemTexts write (.object id) done (List.range' start items.length)) first (Json.workOfItems items) 0
      fun found last => found = done.reverse ++ (items.map text).map unitsOf ∧ last.objects = heap.objects := by
  induction items generalizing start done first with
  | nil => exact costs_pure ⟨(List.append_nil _).symm, same⟩
  | cons item rest ih =>
    rw [List.length_cons] at count
    have here : first.object id = arrayHolding values := (Heap.object_congr same id).trans kept
    rw [List.length_cons, List.range'_succ, itemTexts, Json.workOfItems]
    refine (costs_getItem here (by omega)).bind (item.work + Json.workOfItems rest) 0 ⟨by omega, Nat.le_refl _⟩ ?_
    rintro _ got ⟨rfl, gotSame⟩
    refine (each 0 (Nat.succ_pos _) (by omega) got (gotSame.trans same)).bind (Json.workOfItems rest) 0
      ⟨Nat.le_refl _, Nat.le_refl _⟩ ?_
    rintro _ written ⟨rfl, writtenSame⟩
    refine (ih (start + 1) (by omega) _ ?_ writtenSame).imp ?_
    · intro offset inside placed later laterSame
      have shifted : start + 1 + offset = start + (offset + 1) := by omega
      have one := each (offset + 1) (Nat.succ_lt_succ inside) (by omega) later laterSame
      simp only [shifted]
      exact one
    · rintro _ last ⟨rfl, lastSame⟩
      exact ⟨by simp, lastSame⟩

/-- The members of an object, in some order. -/
theorem costs_memberTexts {search : Nat} (ordered : List (String × Json)) (done : List Units)
    (each : ∀ member ∈ ordered, ∀ later : Heap, later.objects = heap.objects → ∃ value,
      Costs (get (.object id) (Units.ofString member.1)) later search 0
        (fun found last => found = value ∧ last.objects = heap.objects) ∧
      ∀ last : Heap, last.objects = heap.objects →
        Costs (write (.object id) (Units.ofString member.1) value) last member.2.work 0 fun found final =>
          found = some (unitsOf (text member.2)) ∧ final.objects = heap.objects)
    (same : first.objects = heap.objects) :
    Costs (memberTexts write {} (.object id) done (ordered.map fun member => Units.ofString member.1)) first
      (ordered.map fun member => search + member.2.work).sum 0 fun found last =>
        found = done.reverse ++ (ordered.map fun member => Json.memberText [] member.1 (text member.2)).map unitsOf ∧
          last.objects = heap.objects := by
  induction ordered generalizing done first with
  | nil => exact costs_pure ⟨(List.append_nil _).symm, same⟩
  | cons member rest ih =>
    rw [List.forall_mem_cons] at each
    rw [List.map_cons, List.map_cons, List.sum_cons, memberTexts]
    obtain ⟨value, gets, writes⟩ := each.1 first same
    refine gets.bind (member.2.work + (rest.map fun member => search + member.2.work).sum) 0 ⟨by omega, Nat.le_refl _⟩ ?_
    rintro _ got ⟨rfl, gotSame⟩
    refine (writes got gotSame).bind (rest.map fun member => search + member.2.work).sum 0
      ⟨Nat.le_refl _, Nat.le_refl _⟩ ?_
    rintro _ written ⟨rfl, writtenSame⟩
    refine (ih _ each.2 writtenSame).imp ?_
    rintro _ last ⟨rfl, lastSame⟩
    refine ⟨?_, lastSame⟩
    have colon : unitsOf (Json.memberText [] member.1 (text member.2)) =
        quote (Units.ofString member.1) ++ #[58] ++ unitsOf (text member.2) := by
      rw [quote_unitsOf]
      simp [unitsOf, Json.memberText, Text.Units.encode, Text.Units.ofChar]
    rw [List.map_cons, List.map_cons, colon]
    simp

end Parts

/-- Before a value is written it is asked for what it has to say, and is itself. -/
theorem costs_opening {β : Type} {next : Value → Eval β} {goal : β → Heap → Prop} {total : Nat} {holder : Value}
    (shown : Shows heap low high json value) (silent : heap.Silent) (key : Units) (more : Nat)
    (enough : 1 + searchOf json + more ≤ total)
    (rest : ∀ later : Heap, later.objects = heap.objects → Costs (next value) later more 0 goal) :
    Costs (do
      spend 1
      let answer ← answerOf key value
      let given ← replaced {} holder key answer
      next (← unboxed given)) heap total 0 goal := by
  refine (costs_spend 1 heap).bind (searchOf json + more) 0 ⟨by omega, Nat.le_refl _⟩ fun _ spent spentSame => ?_
  have still := shown.of_objects spentSame
  refine (costs_answerOf still (silent.of_objects spentSame) key).bind more 0 ⟨Nat.le_refl _, Nat.le_refl _⟩ ?_
  rintro value answered ⟨rfl, answeredSame⟩
  have same := answeredSame.trans spentSame
  have replacedBy : Costs (replaced {} holder key value) answered 0 0 fun found later => found = value ∧ later = answered :=
    costs_pure ⟨rfl, rfl⟩
  refine replacedBy.bind more 0 ⟨Nat.le_of_eq (Nat.zero_add _), Nat.le_refl _⟩ ?_
  rintro value answered ⟨rfl, rfl⟩
  have here := shown.of_objects same
  refine (costs_unboxed here).bind more 0 ⟨Nat.le_of_eq (Nat.zero_add _), Nat.le_refl _⟩ ?_
  rintro value later ⟨rfl, laterSame⟩
  exact rest later (laterSame.trans same)

/-- Wherever a value is shown a script writes the same text for it, and the text spells the value. -/
structure WritesAs (json : Json) (text : List Char) : Prop where
  spells : Json.Spells json text
  costs : ∀ (heap : Heap) (low high : Nat) (value : Value), Shows heap low high json value → heap.Silent →
    ∀ (fuel : Nat) (around : List Nat) (indent : Units) (holder : Value) (key : Units), json.depth ≤ fuel →
      (∀ id ∈ around, id < low ∨ high ≤ id) →
      Costs (writeValue {} (fuel + 1) around indent holder key value) heap json.work 0 fun found later =>
        found = some (unitsOf text) ∧ later.objects = heap.objects

/-- It does so when something else was written before, too. -/
theorem WritesAs.costs_later {text : List Char} (writes : WritesAs json text) (shown : Shows heap low high json value)
    (silent : heap.Silent) {fuel : Nat} (deep : json.depth ≤ fuel) {around : List Nat}
    (outside : ∀ id ∈ around, id < low ∨ high ≤ id) (indent : Units) (holder : Value) (key : Units) {later : Heap}
    (same : later.objects = heap.objects) : Costs (writeValue {} (fuel + 1) around indent holder key value) later json.work 0
      fun found last => found = some (unitsOf text) ∧ last.objects = heap.objects :=
  (writes.costs later low high value (shown.of_objects same) (silent.of_objects same) fuel around indent holder key deep
    outside).imp fun _ _ written => ⟨written.1, written.2.trans same⟩

def Writes (json : Json) : Prop := ∃ text, WritesAs json text

section Scalars

/-- A value that is no object has its own text. -/
theorem writes_scalar {text : List Char} (spells : Json.Spells json text) (atom : json.work = 1 ∧ searchOf json = 0)
    (scalar : ∀ heap low high value, Shows heap low high json value →
      value.isObject = false ∧ scalarText? value = some (unitsOf text)) : Writes json := by
  refine ⟨text, spells, fun heap low high value shown silent fuel around indent holder key _ _ => ?_⟩
  obtain ⟨noObject, written⟩ := scalar heap low high value shown
  rw [writeValue, atom.1]
  refine costs_opening shown silent key 0 (Nat.le_of_eq (by rw [atom.2])) fun later same => ?_
  cases value with
  | object id => cases noObject
  | _ => exact costs_pure ⟨written, same⟩

theorem writes_null : Writes .null :=
  writes_scalar .null ⟨rfl, rfl⟩ fun _ _ _ _ shown => by
    cases shown
    exact ⟨rfl, rfl⟩

theorem writes_bool (flag : Bool) : Writes (.bool flag) :=
  writes_scalar (.bool flag) ⟨rfl, rfl⟩ fun _ _ _ _ shown => by
    cases shown
    cases flag <;> exact ⟨rfl, rfl⟩

theorem writes_integer {number : Int} (inRange : InRange number) (safe : Num.isSafe number = true) :
    Writes (.integer number inRange) :=
  writes_scalar (.integer number inRange) ⟨rfl, rfl⟩ fun _ _ _ _ shown => by
    cases shown
    rw [Num.ofInt, safe]
    exact ⟨rfl, rfl⟩

theorem writes_string (text : String) : Writes (.string text) :=
  writes_scalar (.string text) ⟨rfl, rfl⟩ fun _ _ _ _ shown => by
    cases shown
    rw [scalarText?, quote_unitsOf]
    exact ⟨rfl, rfl⟩

end Scalars

/-- An object is not among those that are around it. -/
theorem not_around {around : List Nat} (inside : low ≤ id ∧ id < high)
    (outside : ∀ other ∈ around, other < low ∨ high ≤ other) : around.contains id = false := by
  rw [Bool.eq_false_iff, ne_eq, List.contains_iff_mem]
  intro among
  have := outside id among
  omega

theorem exists_texts {values : List Json} (each : ∀ value ∈ values, Writes value) :
    ∃ text : Json → List Char, ∀ value ∈ values, WritesAs value (text value) := by
  have some : ∀ value, ∃ text, value ∈ values → WritesAs value text := by
    intro value
    by_cases member : value ∈ values
    · obtain ⟨text, writes⟩ := each value member
      exact ⟨text, fun _ => writes⟩
    · exact ⟨[], fun inside => absurd inside member⟩
  exact Classical.skolem.mp some

/-- An array is written between brackets. -/
theorem costs_arrayText {write : Value → Units → Value → Eval (Option Units)} {text : Json → List Char} {items : List Json}
    {values : List Value} (kept : heap.object id = arrayHolding values) (count : items.length = values.length)
    (safe : Num.isSafe items.length = true)
    (each : ∀ index (inside : index < items.length) (placed : index < values.length) (later : Heap),
      later.objects = heap.objects →
      Costs (write (.object id) (indexKey index) (values.get ⟨index, placed⟩)) later (items.get ⟨index, inside⟩).work 0
        fun found last => found = some (unitsOf (text (items.get ⟨index, inside⟩))) ∧ last.objects = heap.objects)
    (outer inner : Units) {first : Heap} (same : first.objects = heap.objects) :
    Costs (do
      let length ← lengthOf (.object id)
      spend length
      let texts ← itemTexts write (.object id) [] (List.range length)
      return some (bracketed {} outer inner 91 93 texts)) first (items.length + Json.workOfItems items) 0
      fun found last => found = some (unitsOf ('[' :: Json.enclosed ']' [] [] (items.map text))) ∧
        last.objects = heap.objects := by
  have here : first.object id = arrayHolding values := (Heap.object_congr same id).trans kept
  rw [count] at safe
  refine (costs_lengthOf here safe).bind (items.length + Json.workOfItems items) 0 ⟨by omega, Nat.le_refl _⟩ ?_
  rintro _ counted ⟨rfl, countedSame⟩
  rw [← count]
  refine (costs_spend items.length counted).bind (Json.workOfItems items) 0 ⟨Nat.le_refl _, Nat.le_refl _⟩ ?_
  intro _ spent spentSame
  rw [List.range_eq_range']
  have parts : ∀ offset (inside : offset < items.length) (placed : 0 + offset < values.length) (later : Heap),
      later.objects = heap.objects →
      Costs (write (.object id) (indexKey (0 + offset)) (values.get ⟨0 + offset, placed⟩)) later
        (items.get ⟨offset, inside⟩).work 0 fun found last =>
          found = some (unitsOf (text (items.get ⟨offset, inside⟩))) ∧ last.objects = heap.objects := by
    intro offset inside placed later laterSame
    simp only [Nat.zero_add] at placed ⊢
    exact each offset inside placed later laterSame
  refine (costs_itemTexts kept items 0 (by omega) [] parts (spentSame.trans (countedSame.trans same))).bind 0 0
    ⟨Nat.le_refl _, Nat.le_refl _⟩ ?_
  rintro _ last ⟨rfl, lastSame⟩
  exact costs_pure ⟨congrArg some (bracketed_unitsOf rfl rfl _), lastSame⟩

theorem writes_array {items : List Json} (safe : Num.isSafe items.length = true) (each : ∀ item ∈ items, Writes item) :
    Writes (.array items) := by
  obtain ⟨text, writes⟩ := exists_texts each
  have blank := Json.allBlank_nil
  refine ⟨_, .array blank blank fun item member => (writes item member).spells, ?_⟩
  intro heap low high value shown silent fuel around indent holder key deep outside
  obtain ⟨inner, rfl⟩ : ∃ inner, fuel = inner + 1 := ⟨fuel - 1, by rw [Json.depth] at deep; omega⟩
  rw [Json.depth_array_le] at deep
  rw [writeValue]
  refine costs_opening shown silent key (items.length + Json.workOfItems items)
    (by simp only [Json.work, searchOf]; omega) fun later same => ?_
  cases shown with
  | @array _ _ id _ values above below kept count each =>
    refine (costs_look _ later).bind (items.length + Json.workOfItems items) 0 ⟨by omega, Nat.le_refl _⟩ ?_
    rintro _ _ ⟨rfl, rfl⟩
    rw [(Heap.object_congr same id).trans kept, not_around ⟨above, below⟩ outside]
    have beside : ∀ other ∈ id :: around, other < low ∨ id ≤ other :=
      List.forall_mem_cons.mpr ⟨.inr (Nat.le_refl _), fun other among => (outside other among).imp_right (by omega)⟩
    refine costs_arrayText kept count safe ?_ indent (indent ++ #[]) same
    intro index inside placed first firstSame
    have member := List.get_mem items ⟨index, inside⟩
    exact (writes _ member).costs_later (each index inside placed) silent (deep _ member) beside _ _ _ firstSame

theorem nodup_names (members : SortedMap Json) : (members.keys.map Units.ofString).Nodup :=
  members.nodup_keys.map fun _ _ same => Text.Units.ofString_inj.mp same

/-- An object lists all its keys. -/
theorem ownKeys_recordHolding {entries : List (Units × Value)} (distinct : (entries.map Prod.fst).Nodup) :
    (recordHolding entries).ownKeys.filter (recordHolding entries).isEnumerable = orderKeys (entries.map Prod.fst) := by
  have keys : (recordHolding entries).ownKeys = orderKeys (entries.map Prod.fst) := by
    simp only [Object.ownKeys, recordHolding, List.map_map]
    rfl
  rw [keys, List.filter_eq_self]
  intro key listed
  obtain ⟨entry, member, rfl⟩ := List.mem_map.mp ((orderKeys_perm _).mem_iff.mp listed)
  rw [Object.isEnumerable, own?_recordHolding, find?_entry distinct member]
  rfl

theorem exists_ordered {α β : Type} {f : α → β} {items : List α} {images : List β} (shuffled : images.Perm (items.map f)) :
    ∃ ordered : List α, ordered.Perm items ∧ ordered.map f = images := by
  obtain ⟨ordered, same, perm⟩ := (iff_of_eq (congrFun₂ (List.eq_map_comp_perm f) images items)).mpr shuffled
  exact ⟨ordered, perm, same.symm⟩

/-- Under the name of a member there is the value that shows it. -/
theorem answers_member {members : SortedMap Json} {entries : List (Units × Value)}
    (kept : heap.object id = recordHolding entries) (names : entries.map Prod.fst = members.keys.map Units.ofString)
    (count : members.toList.length = entries.length)
    (each : ∀ index (inside : index < members.toList.length) (placed : index < entries.length),
      Shows heap low high (members.toList.get ⟨index, inside⟩).2 (entries.get ⟨index, placed⟩).2)
    {member : String × Json} (inside : member ∈ members.toList) :
    ∃ value, heap.Answers id (Units.ofString member.1) value ∧ Shows heap low high member.2 value := by
  obtain ⟨⟨index, placed⟩, rfl⟩ := List.mem_iff_get.mp inside
  have also : index < entries.length := by omega
  have key : (entries.get ⟨index, also⟩).1 = Units.ofString (members.toList.get ⟨index, placed⟩).1 := by
    have both := congrArg (·[index]?) names
    simpa [Ascending.keys, placed, also] using both
  have distinct : (entries.map Prod.fst).Nodup := names ▸ nodup_names members
  have answers := answers_entry kept distinct (List.get_mem entries ⟨index, also⟩)
  rw [key] at answers
  exact ⟨_, answers, each index placed also⟩

/-- An object is written between braces, its members in the order of listings. -/
theorem costs_objectText {write : Value → Units → Value → Eval (Option Units)} {text : Json → List Char}
    {members : SortedMap Json} {ordered : List (String × Json)} (shuffled : ordered.Perm members.toList)
    {keys : List Units} (listed : keys = ordered.map fun member => Units.ofString member.1)
    (each : ∀ member ∈ members.toList, ∀ later : Heap, later.objects = heap.objects → ∃ value,
      Costs (get (.object id) (Units.ofString member.1)) later (members.toList.length / 16) 0
        (fun found last => found = value ∧ last.objects = heap.objects) ∧
      ∀ last : Heap, last.objects = heap.objects →
        Costs (write (.object id) (Units.ofString member.1) value) last member.2.work 0 fun found final =>
          found = some (unitsOf (text member.2)) ∧ final.objects = heap.objects)
    (outer inner : Units) {first : Heap} (same : first.objects = heap.objects) :
    Costs (do
      let texts ← memberTexts write {} (.object id) [] keys
      return some (bracketed {} outer inner 123 125 texts)) first
      (Json.workOfMembers (members.toList.length / 16) members) 0 fun found last =>
        found = some (unitsOf ('\x7b' :: Json.enclosed '\x7d' [] []
          (ordered.map fun member => Json.memberText [] member.1 (text member.2)))) ∧ last.objects = heap.objects := by
  rw [listed, Json.workOfMembers_eq, ← (shuffled.map fun member => members.toList.length / 16 + member.2.work).sum_nat]
  refine (costs_memberTexts ordered [] (fun member inOrder => each member (shuffled.mem_iff.mp inOrder)) same).bind 0 0
    ⟨Nat.le_refl _, Nat.le_refl _⟩ ?_
  rintro _ last ⟨rfl, lastSame⟩
  exact costs_pure ⟨congrArg some (bracketed_unitsOf rfl rfl _), lastSame⟩

theorem writes_object {members : SortedMap Json} (each : ∀ member ∈ members.toList, Writes member.2) :
    Writes (.object members) := by
  obtain ⟨text, writes⟩ := exists_texts (List.forall_mem_map.mpr each)
  rw [List.forall_mem_map] at writes
  have names : (orderKeys (members.toList.map fun member => Units.ofString member.1)).Perm
      (members.toList.map fun member => Units.ofString member.1) := orderKeys_perm _
  obtain ⟨ordered, shuffled, listed⟩ := exists_ordered names
  have blank := Json.allBlank_nil
  refine ⟨_, .object blank blank blank shuffled fun member inside => (writes member inside).spells, ?_⟩
  intro heap low high value shown silent fuel around indent holder key deep outside
  obtain ⟨inner, rfl⟩ : ∃ inner, fuel = inner + 1 := ⟨fuel - 1, by rw [Json.depth] at deep; omega⟩
  rw [Json.depth_object_le] at deep
  rw [writeValue]
  refine costs_opening shown silent key (Json.workOfMembers (members.toList.length / 16) members)
    (by simp only [Json.work, searchOf]; omega) fun later same => ?_
  cases shown with
  | @object _ _ id _ entries above below kept names count each =>
    have whole := Shows.object above below kept names count each
    refine (costs_look _ later).bind (Json.workOfMembers (members.toList.length / 16) members) 0 ⟨by omega, Nat.le_refl _⟩ ?_
    rintro _ _ ⟨rfl, rfl⟩
    rw [(Heap.object_congr same id).trans kept, not_around ⟨above, below⟩ outside]
    have distinct : (entries.map Prod.fst).Nodup := names ▸ nodup_names members
    have keys : (recordHolding entries).ownKeys.filter (recordHolding entries).isEnumerable =
        ordered.map fun member => Units.ofString member.1 := by
      rw [ownKeys_recordHolding distinct, names, listed, Ascending.keys, List.map_map]
      rfl
    have beside : ∀ other ∈ id :: around, other < id + 1 ∨ high ≤ other :=
      List.forall_mem_cons.mpr ⟨.inl (Nat.lt_succ_self _), fun other among => (outside other among).imp_left (by omega)⟩
    refine costs_objectText shuffled keys ?_ indent (indent ++ #[]) same
    intro member inside first firstSame
    obtain ⟨value, answers, shown⟩ := answers_member kept names count each inside
    have gets := costs_get (answers.of_objects firstSame)
    rw [Heap.object_congr firstSame, size_properties whole, searchOf] at gets
    exact ⟨value, gets.imp fun _ _ got => ⟨got.1, got.2.trans firstSame⟩, fun last lastSame =>
      (writes _ inside).costs_later shown silent (deep _ inside) beside _ _ _ lastSame⟩

theorem isSafe_of_le {small large : Nat} (atMost : small ≤ large) (safe : Num.isSafe large = true) :
    Num.isSafe small = true := by
  simp only [Num.isSafe, Bool.and_eq_true, decide_eq_true_eq] at safe ⊢
  omega

theorem writes {json : Json} (safe : json.isSafe = true) (short : Num.isSafe json.work = true) : Writes json := by
  induction json using Json.induct with
  | null => exact writes_null
  | bool flag => exact writes_bool flag
  | integer number inRange => exact writes_integer inRange safe
  | float => cases safe
  | string text => exact writes_string text
  | array items ih =>
    rw [Json.isSafe_array] at safe
    have counted : items.length ≤ (Json.array items).work := by
      rw [Json.work]
      omega
    exact writes_array (isSafe_of_le counted short) fun item inside =>
      ih item inside (safe item inside) (isSafe_of_le (Json.work_le_of_item inside) short)
  | object members ih =>
    rw [Json.isSafe_object] at safe
    exact writes_object fun member inside =>
      ih member inside (safe member inside) (isSafe_of_le (Json.work_le_of_member inside) short)

/-- What is shown goes out as it came in. -/
theorem costs_toJson (shown : Shows heap low high json value) (silent : heap.Silent) (portable : json.Portable) :
    Costs (toJson value) heap json.work 0 fun found later => found = some json ∧ later.objects = heap.objects := by
  obtain ⟨text, spells, costs⟩ := writes portable.safe portable.short
  have written : Costs (stringify {} value) heap json.work 0 fun found later =>
      found = some (unitsOf text) ∧ later.objects = heap.objects :=
    costs heap low high value shown silent 1999 [] #[] .undefined #[] (Nat.le_trans portable.shallow (by decide)) (by simp)
  have decoded : (Text.Units.decode? (unitsOf text).toList).getD [] = text := by
    rw [unitsOf, Text.Units.decode?_encode]
    rfl
  have read : Json.readWithin Json.nestingLimit text = .ok json := by
    have blank := Json.allBlank_nil
    exact spells.readWithin blank portable.shallow
  have defined : value ≠ .undefined := by
    rintro rfl
    cases shown
  rw [toJson]
  · refine written.bind 0 0 ⟨Nat.le_refl _, Nat.le_refl _⟩ ?_
    rintro _ later ⟨rfl, same⟩
    simp only [decoded, read]
    exact costs_pure ⟨rfl, same⟩
  · exact defined

theorem costs_toJsonAll {jsons : List Json} {values : List Value} (shown : List.Forall₂ (Shows heap low high) jsons values)
    (silent : heap.Silent) (portable : ∀ json ∈ jsons, json.Portable) {first : Heap} (same : first.objects = heap.objects) :
    Costs (toJsonAll values) first (jsons.map Json.work).sum 0 fun found later =>
      found = jsons.map some ∧ later.objects = heap.objects := by
  induction shown generalizing first with
  | nil => exact costs_pure ⟨rfl, same⟩
  | @cons json value jsons values one rest ih =>
    rw [List.forall_mem_cons] at portable
    have still := one.of_objects same
    rw [toJsonAll, List.map_cons, List.sum_cons]
    refine (costs_toJson still (silent.of_objects same) portable.1).bind (jsons.map Json.work).sum 0
      ⟨Nat.le_refl _, Nat.le_refl _⟩ ?_
    rintro _ middle ⟨rfl, middleSame⟩
    refine (ih portable.2 (middleSame.trans same)).bind 0 0 ⟨Nat.le_refl _, Nat.le_refl _⟩ ?_
    rintro _ last ⟨rfl, lastSame⟩
    exact costs_pure ⟨rfl, lastSame⟩

end Eval

end Script
end ScriptedTask
