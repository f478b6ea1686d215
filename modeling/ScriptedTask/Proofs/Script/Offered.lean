import ScriptedTask.Proofs.Script.Written
import ScriptedTask.Script.Runner

/-! What a script finds when it starts: globals whose methods the surroundings answer, however many
others there are, and prototypes that say nothing about how anything is written. -/

namespace ScriptedTask.Script

open Text (Units)

section Objects

variable {object : Object} {key other : Units}

theorem find?_set {α : Type} (test : α → Bool) {items : List α} {index : Nat} {item : α} (new : test item = false)
    (old : ∀ other, items[index]? = some other → test other = false) :
    (items.set index item).find? test = items.find? test := by
  induction items generalizing index with
  | nil => rfl
  | cons first rest ih =>
    cases index with
    | zero => simp [new, old first rfl]
    | succ index => simp only [List.set_cons_succ, List.find?_cons, ih (fun other found => old other found)]

/-- Putting a property leaves those of other keys alone. -/
theorem find?_put_of_ne (differ : key ≠ other) (property : Property) :
    (object.put key property).find? other = object.find? other := by
  obtain ⟨kind, parent, properties, extensible, frozen⟩ := object
  have unlike : ∀ named : Units, named.same key = true → named.same other = false := by
    intro named same
    rw [Text.Units.same_iff] at same
    subst same
    exact Bool.eq_false_iff.mpr fun same => differ (Text.Units.same_iff.mp same)
  have itself : key.same other = false := unlike key (Text.Units.same_iff.mpr rfl)
  simp only [Object.put, Object.find?]
  split
  next index found =>
    obtain ⟨inside, here, -⟩ := Array.findIdx?_eq_some_iff_getElem.mp found
    have old : ∀ entry, properties.toList[index]? = some entry → entry.1.same other = false := by
      intro entry placed
      rw [Array.getElem?_toList, Array.getElem?_eq_getElem inside, Option.some.injEq] at placed
      exact unlike _ (placed ▸ here)
    rw [Array.set!_eq_setIfInBounds, ← Array.find?_toList, ← Array.find?_toList, Array.toList_setIfInBounds,
      find?_set (fun entry : Units × Property => entry.1.same other) itself old]
  · rw [Array.find?_push, itself, if_neg Bool.false_ne_true, Option.or_none]

theorem kind_put (object : Object) (key : Units) (property : Property) : (object.put key property).kind = object.kind := by
  simp only [Object.put]
  split <;> rfl

theorem own?_put_of_ne (plain : object.kind = .plain) (differ : key ≠ other) (property : Property) :
    (object.put key property).own? other = object.own? other := by
  have own : ∀ object : Object, object.kind = .plain → object.own? other = object.find? other := by
    intro object plain
    rw [Object.own?, plain]
  rw [own _ plain, own _ ((kind_put object key property).trans plain), find?_put_of_ne differ]

end Objects

namespace Heap

/-- A script can reach a method that the surroundings answer. -/
structure Offers (heap : Heap) (target method : String) (holder function : Nat) : Prop where
  global : (heap.object Place.globals).own? (Units.ofString target) = some (.plain (.object holder))
  member : (heap.object holder).own? (Units.ofString method) = some (.plain (.object function))
  few : (heap.object holder).properties.size < 16
  host : (heap.object function).kind = .host target method
  inside : holder < heap.objects.size ∧ function < heap.objects.size
  apart : holder ≠ Place.globals ∧ function ≠ Place.globals

theorem Offers.of_objects {heap later : Heap} {target method : String} {holder function : Nat}
    (offers : heap.Offers target method holder function) (same : later.objects = heap.objects) :
    later.Offers target method holder function where
  global := by
    rw [object_congr same]
    exact offers.global
  member := by
    rw [object_congr same]
    exact offers.member
  few := by
    rw [object_congr same]
    exact offers.few
  host := by
    rw [object_congr same]
    exact offers.host
  inside := by
    rw [same]
    exact offers.inside
  apart := offers.apart

end Heap

/-! More globals change nothing about those that are there. -/

namespace Realm

section Adding

variable {heap : Heap} {holder : Nat}

theorem addMethod_eq (target : String) (holder : Nat) (heap : Heap) (method : String) :
    ∃ function, addMethod target holder heap method = (heap.add function).2.changeObject holder fun object =>
      object.put (Units.ofString method) (.plain (.object heap.objects.size)) :=
  ⟨_, rfl⟩

/-- Adding a method to its holder changes no other object. -/
theorem addMethod_others (target : String) (inside : holder < heap.objects.size) (method : String) :
    heap.objects.size ≤ (addMethod target holder heap method).objects.size ∧
      ∀ id < heap.objects.size, id ≠ holder → (addMethod target holder heap method).object id = heap.object id := by
  obtain ⟨function, whole⟩ := addMethod_eq target holder heap method
  obtain ⟨size, -, kept⟩ := Heap.object_push (rfl : (heap.add function).2.objects = heap.objects.push function)
  have changes := (heap.add function).2.changes_changeObject (Nat.lt_of_lt_of_le inside kept.size) fun object =>
    object.put (Units.ofString method) (.plain (.object heap.objects.size))
  rw [whole]
  refine ⟨?_, fun id below away => (changes.others id away).trans (kept.same id below)⟩
  rw [changes.size, size]
  exact Nat.le_succ _

theorem addMethods_others (target : String) (inside : holder < heap.objects.size) (methods : List String) :
    heap.objects.size ≤ (methods.foldl (addMethod target holder) heap).objects.size ∧
      ∀ id < heap.objects.size, id ≠ holder → (methods.foldl (addMethod target holder) heap).object id = heap.object id := by
  induction methods generalizing heap with
  | nil => exact ⟨Nat.le_refl _, fun _ _ _ => rfl⟩
  | cons method rest ih =>
    obtain ⟨grown, same⟩ := addMethod_others target inside method
    obtain ⟨grownMore, sameMore⟩ := ih (Nat.lt_of_lt_of_le inside grown)
    refine ⟨Nat.le_trans grown grownMore, fun id below away => ?_⟩
    exact (sameMore id (Nat.lt_of_lt_of_le below grown) away).trans (same id below away)

theorem addGlobal_eq (heap : Heap) (entry : Session.Global) : ∃ holder, addGlobal heap entry =
    (entry.methods.foldl (addMethod entry.target heap.objects.size) (heap.add holder).2).changeObject Place.globals fun object =>
      object.put (Units.ofString entry.target) (.plain (.object heap.objects.size)) :=
  ⟨_, rfl⟩

/-- Adding a global changes no object but the one of the globals, and that by one property. -/
theorem addGlobal_others (inside : Place.globals < heap.objects.size) (entry : Session.Global) :
    heap.objects.size ≤ (addGlobal heap entry).objects.size ∧
      (∀ id < heap.objects.size, id ≠ Place.globals → (addGlobal heap entry).object id = heap.object id) ∧
      (addGlobal heap entry).object Place.globals =
        (heap.object Place.globals).put (Units.ofString entry.target) (.plain (.object heap.objects.size)) := by
  obtain ⟨holder, whole⟩ := addGlobal_eq heap entry
  obtain ⟨size, -, kept⟩ := Heap.object_push (rfl : (heap.add holder).2.objects = heap.objects.push holder)
  have new : heap.objects.size < (heap.add holder).2.objects.size := by omega
  obtain ⟨grown, same⟩ := addMethods_others entry.target new entry.methods
  have still : ∀ id < heap.objects.size,
      (entry.methods.foldl (addMethod entry.target heap.objects.size) (heap.add holder).2).object id = heap.object id :=
    fun id below => (same id (Nat.lt_trans below new) (Nat.ne_of_lt below)).trans (kept.same id below)
  have changes := Heap.changes_changeObject _ (Nat.lt_of_lt_of_le (Nat.lt_trans inside new) grown) fun object =>
    object.put (Units.ofString entry.target) (.plain (.object heap.objects.size))
  rw [whole]
  refine ⟨?_, fun id below away => (changes.others id away).trans (still id below), ?_⟩
  · rw [changes.size]
    exact Nat.le_trans (Nat.le_of_lt new) grown
  · rw [changes.here, still _ inside]

end Adding

/-- What holds of the start of a script: a method can be called, and prototypes are silent. -/
structure Ready (heap : Heap) (target method : String) (holder function : Nat) : Prop where
  offers : heap.Offers target method holder function
  silent : heap.Silent
  plain : (heap.object Place.globals).kind = .plain

theorem Ready.addGlobal {heap : Heap} {target method : String} {holder function : Nat}
    (ready : Ready heap target method holder function) {entry : Session.Global} (other : entry.target ≠ target) :
    Ready (addGlobal heap entry) target method holder function := by
  have inside : Place.globals < heap.objects.size := Nat.lt_trans (by decide) ready.silent.inside
  obtain ⟨grown, same, globals⟩ := addGlobal_others inside entry
  have holderSame := same holder ready.offers.inside.1 ready.offers.apart.1
  have functionSame := same function ready.offers.inside.2 ready.offers.apart.2
  refine ⟨⟨?_, ?_, ?_, ?_, ?_, ready.offers.apart⟩, ⟨?_, ?_, ?_⟩, ?_⟩
  · rw [globals, own?_put_of_ne ready.plain (fun same => other (Text.Units.ofString_inj.mp same))]
    exact ready.offers.global
  · rw [holderSame]
    exact ready.offers.member
  · rw [holderSame]
    exact ready.offers.few
  · rw [functionSame]
    exact ready.offers.host
  · exact ⟨Nat.lt_of_lt_of_le ready.offers.inside.1 grown, Nat.lt_of_lt_of_le ready.offers.inside.2 grown⟩
  · exact Nat.lt_of_lt_of_le ready.silent.inside grown
  · rw [same _ (Nat.lt_trans (by decide) ready.silent.inside) (by decide)]
    exact ready.silent.objects
  · rw [same _ ready.silent.inside (by decide)]
    exact ready.silent.arrays
  · rw [globals, kind_put]
    exact ready.plain

theorem Ready.addGlobals {heap : Heap} {target method : String} {holder function : Nat}
    (ready : Ready heap target method holder function) {globals : List Session.Global}
    (others : ∀ entry ∈ globals, entry.target ≠ target) :
    Ready (globals.foldl Realm.addGlobal heap) target method holder function := by
  induction globals generalizing heap with
  | nil => exact ready
  | cons entry rest ih =>
    rw [List.forall_mem_cons] at others
    exact ih (ready.addGlobal others.1) others.2

/-- The object that a property holds, if it is a plain one. -/
def objectIn? : Option Property → Option Nat
  | some ⟨.data (.object id) true, true, true⟩ => some id
  | _ => none

theorem objectIn?_some {property : Option Property} {id : Nat} (found : objectIn? property = some id) :
    property = some (.plain (.object id)) := by
  unfold objectIn? at found
  split at found
  · cases found
    rfl
  · cases found

def isHost (target method : String) : Kind → Bool
  | .host other name => other == target && name == method
  | _ => false

theorem isHost_iff {target method : String} {kind : Kind} :
    isHost target method kind = true ↔ kind = .host target method := by
  cases kind <;> simp [isHost]

def isPlain : Kind → Bool
  | .plain => true
  | _ => false

theorem isPlain_iff {kind : Kind} : isPlain kind = true ↔ kind = .plain := by
  cases kind <;> simp [isPlain]

/-- Where a method is that can be called in a heap that is ready for it. -/
def readyAt? (heap : Heap) (target method : String) : Option (Nat × Nat) := do
  let holder ← objectIn? ((heap.object Place.globals).own? (Units.ofString target))
  let function ← objectIn? ((heap.object holder).own? (Units.ofString method))
  let parent := heap.object Place.objectParent
  let array := heap.object Place.arrayParent
  if (heap.object holder).properties.size < 16 ∧ isHost target method (heap.object function).kind = true ∧
    holder < heap.objects.size ∧ function < heap.objects.size ∧ holder ≠ Place.globals ∧ function ≠ Place.globals ∧
    Place.arrayParent < heap.objects.size ∧ (parent.own? Heap.toJsonKey).isNone = true ∧ parent.parent = none ∧
    (array.own? Heap.toJsonKey).isNone = true ∧ array.parent = some Place.objectParent ∧
    isPlain (heap.object Place.globals).kind = true then some (holder, function) else none

theorem ready_of_readyAt? {heap : Heap} {target method : String} {holder function : Nat}
    (found : readyAt? heap target method = some (holder, function)) : Ready heap target method holder function := by
  simp only [readyAt?, Option.bind_eq_bind, Option.bind_eq_some_iff, Option.ite_none_right_eq_some, Option.some.injEq,
    Prod.mk.injEq, isHost_iff, isPlain_iff, Option.isNone_iff_eq_none] at found
  obtain ⟨_, global, _, member, ⟨few, host, holderInside, functionInside, holderApart, functionApart, arrays, objectSilent,
    objectTop, arraySilent, arrayTop, plain⟩, rfl, rfl⟩ := found
  exact ⟨⟨objectIn?_some global, objectIn?_some member, few, host, ⟨holderInside, functionInside⟩,
    ⟨holderApart, functionApart⟩⟩, ⟨arrays, ⟨objectSilent, objectTop⟩, ⟨arraySilent, arrayTop⟩⟩, plain⟩

/-- The globals of the capabilities alone. -/
def capabilityGlobals : List Session.Global :=
  (Session.globals { store := { current := SortedMap.empty }, inputs := ⟨SortedMap.empty⟩, outputs := ⟨SortedMap.empty⟩ })

theorem globals_eq (session : Session) :
    session.globals = capabilityGlobals ++ session.queries.map fun query => ⟨query.target, query.methods⟩ :=
  rfl

/-- What scripts read values with and what they write them with. -/
def transfers : List (String × String) :=
  [("variables", "read"), ("variables", "write"), ("inputs", "get"), ("outputs", "set")]

theorem readyAt?_transfers :
    ∀ entry ∈ transfers, (readyAt? (withGlobals capabilityGlobals) entry.1 entry.2).isSome = true := by
  decide +kernel

theorem not_mem_capabilityTargets {seen targets : List String} (distinct : checkTargets seen targets = .ok ()) :
    ∀ target ∈ targets, target ∉ capabilityTargets := by
  induction targets generalizing seen with
  | nil => simp
  | cons target rest ih =>
    rw [checkTargets] at distinct
    split at distinct
    · cases distinct
    next free =>
      split at distinct
      · cases distinct
      · exact List.forall_mem_cons.mpr ⟨by simpa using free, ih distinct⟩

/-- The heap of a script is ready for the capabilities, whatever queries there are. -/
theorem ready_session {session : Session} (distinct : checkTargets [] (session.queries.map Query.target) = .ok ())
    {target method : String} (known : (target, method) ∈ transfers) :
    ∃ holder function, Ready (withGlobals session.globals) target method holder function := by
  obtain ⟨⟨holder, function⟩, found⟩ := Option.isSome_iff_exists.mp (readyAt?_transfers _ known)
  have capability : ∀ entry ∈ transfers, entry.1 ∈ capabilityTargets := by decide
  rw [globals_eq, withGlobals, List.foldl_append]
  refine ⟨holder, function, (ready_of_readyAt? found).addGlobals (List.forall_mem_map.mpr fun query member same => ?_)⟩
  refine not_mem_capabilityTargets distinct query.target (List.mem_map_of_mem member) ?_
  rw [show query.target = target from same]
  exact capability _ known

end Realm

end ScriptedTask.Script
