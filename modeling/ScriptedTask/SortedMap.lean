/-! Maps from names to values that are listed in ascending order of their names.
The order is part of the type: every entry lies above the lower bound that its
predecessor sets, so one finite map has one representation, and two maps with the
same look-ups are equal. -/

namespace ScriptedTask

/-- The name `name` lies strictly above the bound; no bound lies below everything. -/
def Above : Option String → String → Prop
  | none, _ => True
  | some lower, name => lower < name

theorem Above.trans {lower : Option String} {middle name : String} (first : Above lower middle)
    (second : Above (some middle) name) : Above lower name := by
  cases lower with
  | none => trivial
  | some bound => exact String.lt_trans first second

/-- Entries in strictly ascending order of their names, all above `lower`. -/
inductive Ascending (α : Type) : Option String → Type where
  | nil {lower : Option String} : Ascending α lower
  | cons {lower : Option String} (name : String) (above : Above lower name) (value : α)
      (rest : Ascending α (some name)) : Ascending α lower

/-- A finite map from names to values. -/
abbrev SortedMap (α : Type) := Ascending α none

theorem Above.of_not_lt {left right : String} (notBelow : ¬left < right) (differ : left ≠ right) :
    Above (some right) left := by
  by_cases below : right < left
  · exact below
  · exact absurd (String.le_antisymm (String.not_lt.mp below) (String.not_lt.mp notBelow)) differ

namespace Ascending

variable {α β : Type}

instance {lower : Option String} : Inhabited (Ascending α lower) := ⟨.nil⟩

def isEmpty {lower : Option String} : Ascending α lower → Bool
  | nil => true
  | cons .. => false

def size {lower : Option String} : Ascending α lower → Nat
  | nil => 0
  | cons _ _ _ rest => rest.size + 1

def get? {lower : Option String} : Ascending α lower → String → Option α
  | nil, _ => none
  | cons name _ value rest, wanted => if wanted = name then some value else rest.get? wanted

def contains {lower : Option String} (entries : Ascending α lower) (name : String) : Bool := (entries.get? name).isSome

def toList {lower : Option String} : Ascending α lower → List (String × α)
  | nil => []
  | cons name _ value rest => (name, value) :: rest.toList

def keys {lower : Option String} (entries : Ascending α lower) : List String := entries.toList.map Prod.fst

def values {lower : Option String} (entries : Ascending α lower) : List α := entries.toList.map Prod.snd

/-- Binds a name that lies above the bound, replacing what was bound to it. -/
def insertAbove (name : String) (value : α) {lower : Option String} :
    Ascending α lower → Above lower name → Ascending α lower
  | nil, above => cons name above value nil
  | cons head headAbove old rest, above =>
    if below : name < head then cons name above value (cons head below old rest)
    else if same : name = head then cons head headAbove value rest
    else cons head headAbove old (rest.insertAbove name value (Above.of_not_lt below same))

/-- The same entries under a lower bound. -/
def weaken {higher lower : Option String} (below : ∀ name, Above higher name → Above lower name) :
    Ascending α higher → Ascending α lower
  | nil => nil
  | cons name above value rest => cons name (below name above) value rest

/-- The entries whose name and value pass the test. -/
def filter (keep : String → α → Bool) {lower : Option String} : Ascending α lower → Ascending α lower
  | nil => nil
  | cons name above value rest =>
    if keep name value then cons name above value (rest.filter keep)
    else (rest.filter keep).weaken fun _ higher => above.trans higher

def mapValues (f : α → β) {lower : Option String} : Ascending α lower → Ascending β lower
  | nil => nil
  | cons name above value rest => cons name above (f value) (rest.mapValues f)

end Ascending

namespace Ascending

variable {α : Type}

def insert (entries : Ascending α none) (name : String) (value : α) : SortedMap α :=
  entries.insertAbove name value trivial

def erase (entries : Ascending α none) (name : String) : SortedMap α :=
  entries.filter fun other _ => other != name

/-- Every entry of `upper` replaces the entry of the same name in `base`. -/
def overlay (base upper : Ascending α none) : SortedMap α :=
  upper.toList.foldl (fun entries pair => entries.insert pair.1 pair.2) base

end Ascending

namespace SortedMap

variable {α : Type}

def empty : SortedMap α := .nil

/-- Later pairs replace earlier ones of the same name. -/
def ofList (pairs : List (String × α)) : SortedMap α :=
  pairs.foldl (fun entries pair => entries.insert pair.1 pair.2) empty

end SortedMap

namespace Ascending

variable {α : Type} {lower : Option String}

theorem toList_above (entries : Ascending α lower) : ∀ pair ∈ entries.toList, Above lower pair.1 := by
  induction entries with
  | nil => simp [toList]
  | cons name above value rest ih =>
    intro pair member
    rcases List.mem_cons.mp member with rfl | later
    · exact above
    · exact above.trans (ih pair later)

/-- A name that is not above the bound is not bound. -/
theorem get?_eq_none_of_not_above (entries : Ascending α lower) {name : String}
    (outside : ¬Above lower name) : entries.get? name = none := by
  induction entries with
  | nil => rfl
  | cons head above value rest ih =>
    have differ : name ≠ head := fun same => outside (same ▸ above)
    rw [get?, if_neg differ]
    exact ih fun higher => outside (above.trans higher)

theorem get?_insertAbove (entries : Ascending α lower) (name wanted : String) (value : α)
    (above : Above lower name) :
    (entries.insertAbove name value above).get? wanted =
      if wanted = name then some value else entries.get? wanted := by
  induction entries with
  | nil => simp [insertAbove, get?]
  | cons head headAbove old rest ih =>
    rw [insertAbove]
    split
    · rfl
    · split
      next _ same => subst same; simp only [get?]; split <;> rfl
      next _ differ =>
        simp only [get?, ih]
        by_cases hit : wanted = head
        · have other : wanted ≠ name := fun same => differ (same ▸ hit)
          simp only [if_pos hit, if_neg other]
        · simp only [if_neg hit]

theorem get?_weaken {higher : Option String} (below : ∀ name, Above higher name → Above lower name)
    (entries : Ascending α higher) (wanted : String) :
    (entries.weaken below).get? wanted = entries.get? wanted := by
  cases entries <;> rfl

theorem get?_filter (keep : String → α → Bool) (entries : Ascending α lower) (wanted : String) :
    (entries.filter keep).get? wanted = (entries.get? wanted).filter (keep wanted) := by
  induction entries with
  | nil => rfl
  | cons name above value rest ih =>
    rw [filter]
    by_cases hit : wanted = name
    · subst hit
      by_cases kept : keep wanted value
      · simp [get?, Option.filter, kept]
      · have gone : rest.get? wanted = none :=
          rest.get?_eq_none_of_not_above (String.lt_irrefl wanted)
        simp [get?, Option.filter, kept, get?_weaken, ih, gone]
    · by_cases kept : keep name value
      · simp [get?, kept, hit, ih]
      · simp [get?, kept, hit, get?_weaken, ih]

/-- Maps are determined by their look-ups. -/
theorem ext_get? {left right : Ascending α lower} (agree : ∀ name, left.get? name = right.get? name) :
    left = right := by
  induction left with
  | nil =>
    cases right with
    | nil => rfl
    | cons name above value rest => simpa [get?] using agree name
  | cons name above value rest ih =>
    cases right with
    | nil => simpa [get?] using (agree name).symm
    | cons other otherAbove otherValue otherRest =>
      have same : name = other := by
        by_cases below : name < other
        · have found := agree name
          have missing : otherRest.get? name = none :=
            otherRest.get?_eq_none_of_not_above fun higher => String.lt_irrefl _ (String.lt_trans below higher)
          have differ : name ≠ other := fun equal => String.lt_irrefl _ (equal ▸ below)
          simp [get?, differ, missing] at found
        · by_cases equal : name = other
          · exact equal
          · have higher : other < name := Above.of_not_lt below equal
            have found := agree other
            have missing : rest.get? other = none :=
              rest.get?_eq_none_of_not_above fun again => String.lt_irrefl _ (String.lt_trans higher again)
            have differ : other ≠ name := fun again => equal again.symm
            simp [get?, differ, missing] at found
      subst same
      have valueSame : value = otherValue := by simpa [get?] using agree name
      subst valueSame
      congr 1
      apply ih
      intro wanted
      by_cases hit : wanted = name
      · subst hit
        rw [rest.get?_eq_none_of_not_above (String.lt_irrefl wanted),
          otherRest.get?_eq_none_of_not_above (String.lt_irrefl wanted)]
      · simpa [get?, hit] using agree wanted

@[simp] theorem get?_empty (wanted : String) : (SortedMap.empty : SortedMap α).get? wanted = none := rfl

theorem get?_insert (entries : SortedMap α) (name wanted : String) (value : α) :
    (entries.insert name value).get? wanted = if wanted = name then some value else entries.get? wanted :=
  entries.get?_insertAbove name wanted value trivial

theorem get?_erase (entries : SortedMap α) (name wanted : String) :
    (entries.erase name).get? wanted = if wanted = name then none else entries.get? wanted := by
  rw [erase, get?_filter]
  by_cases hit : wanted = name
  · cases entries.get? wanted <;> simp [hit]
  · cases entries.get? wanted <;> simp [hit]

end Ascending

end ScriptedTask
