import ScriptedTask.Json.Basic

/-! Tasks and what their handlers hand back. The inputs of a task keep the order in which they
were delivered; their names are distinct. -/

namespace ScriptedTask

/-- An input with the type tag that came with it. -/
structure TaskInput where
  value : Json
  typeTag : Option String := none

structure Inputs where
  entries : List (String × TaskInput)
  distinct : (entries.map Prod.fst).Nodup

namespace Inputs

def empty : Inputs := ⟨[], List.nodup_nil⟩

instance : Inhabited Inputs := ⟨empty⟩

/-- A known name keeps its place and takes the new input; a new name comes last. -/
def put (name : String) (input : TaskInput) : List (String × TaskInput) → List (String × TaskInput)
  | [] => [(name, input)]
  | (other, old) :: rest => if other = name then (name, input) :: rest else (other, old) :: put name input rest

theorem names_put (name : String) (input : TaskInput) (entries : List (String × TaskInput)) :
    (put name input entries).map Prod.fst =
      if name ∈ entries.map Prod.fst then entries.map Prod.fst else entries.map Prod.fst ++ [name] := by
  induction entries with
  | nil => simp [put]
  | cons entry rest ih =>
    obtain ⟨other, old⟩ := entry
    by_cases same : other = name
    · simp [put, same]
    · have differ : name ≠ other := fun again => same again.symm
      simp only [put, if_neg same, List.map_cons, ih, List.mem_cons, differ, false_or]
      split <;> simp

theorem nodup_put (name : String) (input : TaskInput) {entries : List (String × TaskInput)}
    (distinct : (entries.map Prod.fst).Nodup) : ((put name input entries).map Prod.fst).Nodup := by
  rw [names_put]
  split
  · exact distinct
  next fresh =>
    refine List.nodup_append.mpr ⟨distinct, by simp, ?_⟩
    intro left member right single same
    rw [List.mem_singleton] at single
    exact fresh (single ▸ same ▸ member)

def insert (inputs : Inputs) (name : String) (input : TaskInput) : Inputs :=
  ⟨put name input inputs.entries, nodup_put name input inputs.distinct⟩

def ofList (entries : List (String × TaskInput)) : Inputs :=
  entries.foldl (fun inputs entry => inputs.insert entry.1 entry.2) empty

/-- The values by name, without order and type tags. -/
def values (inputs : Inputs) : Values :=
  SortedMap.ofList (inputs.entries.map fun entry => (entry.1, entry.2.value))

/-- Changes every input in order, or stops at the first that cannot be changed. -/
def changeEntries {ε : Type} (change : String → TaskInput → Except ε TaskInput) :
    (entries : List (String × TaskInput)) →
      Except ε { changed : List (String × TaskInput) // changed.map Prod.fst = entries.map Prod.fst }
  | [] => .ok ⟨[], rfl⟩
  | (name, input) :: rest =>
    match change name input with
    | .error problem => .error problem
    | .ok changed =>
      match changeEntries change rest with
      | .error problem => .error problem
      | .ok ⟨others, names⟩ => .ok ⟨(name, changed) :: others, by simp [names]⟩

def change {ε : Type} (inputs : Inputs) (step : String → TaskInput → Except ε TaskInput) :
    Except ε Inputs :=
  (changeEntries step inputs.entries).map fun changed =>
    ⟨changed.val, by rw [changed.property]; exact inputs.distinct⟩

end Inputs

/-- A unit of work on behalf of a process instance. -/
structure Task where
  id : String := ""
  instanceId : String := ""
  inputs : Inputs := Inputs.empty

def Task.withInputs (task : Task) (inputs : Inputs) : Task := { task with inputs }

/-- How to remove a module when the process instance that owns it goes away. -/
structure DeleteInfo where
  url : String
  userId : String
deriving DecidableEq

/-- A resource that a handler made for a process instance. -/
structure Module where
  id : String := ""
  instanceId : String := ""
  moduleType : String := ""
  data : Values := SortedMap.empty
  keys : List String := []
  deleteInfo : Option DeleteInfo := none

/-- What a handler hands back after a successful run. -/
structure Outcome where
  modules : List Module := []
  outputs : Values := SortedMap.empty

end ScriptedTask
