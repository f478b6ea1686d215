import ScriptedTask.Json.Basic

/-! What a value looks like from outside: how deep it nests, and whether it holds floats. Facts
about values are proved by induction over items and members. -/

namespace ScriptedTask.Json

/-- Induction where an array or object has the hypothesis for everything in it. -/
@[elab_as_elim]
theorem induct {motive : Json → Prop} (null : motive .null) (bool : ∀ value, motive (.bool value))
    (integer : ∀ value inRange, motive (.integer value inRange)) (float : ∀ value, motive (.float value))
    (string : ∀ text, motive (.string text))
    (array : ∀ items, (∀ item ∈ items, motive item) → motive (.array items))
    (object : ∀ members, (∀ member ∈ members.toList, motive member.2) → motive (.object members))
    (value : Json) : motive value := by
  refine @Json.rec motive (fun items => ∀ item ∈ items, motive item)
    (fun _ members => ∀ member ∈ members.toList, motive member.2) null bool integer float string array object
    ?_ ?_ ?_ ?_ value
  · simp
  · intro item rest first later
    exact List.forall_mem_cons.mpr ⟨first, later⟩
  · simp [Ascending.toList]
  · intro _ name above value rest first later
    exact List.forall_mem_cons.mpr ⟨first, later⟩

mutual
/-- How many arrays and objects stand around one another at most. -/
def depth : Json → Nat
  | .array items => depthOfItems items + 1
  | .object members => depthOfMembers members + 1
  | _ => 0

def depthOfItems : List Json → Nat
  | [] => 0
  | item :: rest => max item.depth (depthOfItems rest)

def depthOfMembers {lower : Option String} : Ascending Json lower → Nat
  | .nil => 0
  | .cons _ _ value rest => max value.depth (depthOfMembers rest)
end

mutual
/-- No number in the value is a float. -/
def isIntegral : Json → Bool
  | .float _ => false
  | .array items => areIntegral items
  | .object members => membersIntegral members
  | _ => true

def areIntegral : List Json → Bool
  | [] => true
  | item :: rest => item.isIntegral && areIntegral rest

def membersIntegral {lower : Option String} : Ascending Json lower → Bool
  | .nil => true
  | .cons _ _ value rest => value.isIntegral && membersIntegral rest
end

mutual
/-- The floats in a value. -/
def floats : Json → List Float
  | .float value => [value]
  | .array items => floatsOfItems items
  | .object members => floatsOfMembers members
  | _ => []

def floatsOfItems : List Json → List Float
  | [] => []
  | item :: rest => item.floats ++ floatsOfItems rest

def floatsOfMembers {lower : Option String} : Ascending Json lower → List Float
  | .nil => []
  | .cons _ _ value rest => value.floats ++ floatsOfMembers rest
end

theorem depthOfItems_le {items : List Json} {limit : Nat} :
    depthOfItems items ≤ limit ↔ ∀ item ∈ items, item.depth ≤ limit := by
  induction items with
  | nil => simp [depthOfItems]
  | cons item rest ih => rw [depthOfItems, Nat.max_le, ih, List.forall_mem_cons]

theorem depthOfMembers_le {lower : Option String} {members : Ascending Json lower} {limit : Nat} :
    depthOfMembers members ≤ limit ↔ ∀ member ∈ members.toList, member.2.depth ≤ limit := by
  induction members with
  | nil => simp [depthOfMembers, Ascending.toList]
  | cons name above value rest ih => rw [depthOfMembers, Nat.max_le, ih, Ascending.toList, List.forall_mem_cons]

theorem depth_array_le {items : List Json} {limit : Nat} :
    (Json.array items).depth ≤ limit + 1 ↔ ∀ item ∈ items, item.depth ≤ limit := by
  rw [depth, Nat.add_le_add_iff_right, depthOfItems_le]

theorem depth_object_le {members : SortedMap Json} {limit : Nat} :
    (Json.object members).depth ≤ limit + 1 ↔ ∀ member ∈ members.toList, member.2.depth ≤ limit := by
  rw [depth, Nat.add_le_add_iff_right, depthOfMembers_le]

theorem isIntegral_array {items : List Json} :
    (Json.array items).isIntegral = true ↔ ∀ item ∈ items, item.isIntegral = true := by
  rw [isIntegral]
  induction items with
  | nil => simp [areIntegral]
  | cons item rest ih => simp [areIntegral, ih]

theorem membersIntegral_iff {lower : Option String} {members : Ascending Json lower} :
    membersIntegral members = true ↔ ∀ member ∈ members.toList, member.2.isIntegral = true := by
  induction members with
  | nil => simp [membersIntegral, Ascending.toList]
  | cons name above value rest ih => simp [membersIntegral, Ascending.toList, ih]

theorem isIntegral_object {members : SortedMap Json} :
    (Json.object members).isIntegral = true ↔ ∀ member ∈ members.toList, member.2.isIntegral = true := by
  rw [isIntegral, membersIntegral_iff]

section Floats

variable {number : Float}

theorem mem_floatsOfItems {items : List Json} : number ∈ floatsOfItems items ↔ ∃ item ∈ items, number ∈ item.floats := by
  induction items with
  | nil => simp [floatsOfItems]
  | cons item rest ih => simp [floatsOfItems, ih]

theorem mem_floatsOfMembers {lower : Option String} {members : Ascending Json lower} :
    number ∈ floatsOfMembers members ↔ ∃ member ∈ members.toList, number ∈ member.2.floats := by
  induction members with
  | nil => simp [floatsOfMembers, Ascending.toList]
  | cons name above value rest ih => simp [floatsOfMembers, Ascending.toList, ih]

theorem not_mem_floats {value : Json} (integral : value.isIntegral = true) : number ∉ value.floats := by
  induction value using Json.induct with
  | null => nofun
  | bool => nofun
  | integer => nofun
  | float => cases integral
  | string => nofun
  | array items ih =>
    rw [isIntegral_array] at integral
    rw [floats, mem_floatsOfItems]
    rintro ⟨item, member, inside⟩
    exact ih item member (integral item member) inside
  | object members ih =>
    rw [isIntegral_object] at integral
    rw [floats, mem_floatsOfMembers]
    rintro ⟨entry, member, inside⟩
    exact ih entry member (integral entry member) inside

end Floats

end ScriptedTask.Json
