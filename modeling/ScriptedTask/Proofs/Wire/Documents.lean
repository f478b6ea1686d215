import ScriptedTask.Proofs.Json.Parts
import ScriptedTask.Wire.Document
import ScriptedTask.Wire.Format

/-! Documents in their texts. The text of a document is read as its value, and its fields and items
are found as the parts in which they were written. -/

namespace ScriptedTask.Wire

open Json

namespace Document

/-- Induction where a list or record has the hypothesis for everything in it. -/
@[elab_as_elim]
theorem induct {motive : Document → Prop} (value : ∀ plain, motive (.value plain))
    (list : ∀ items, (∀ item ∈ items, motive item) → motive (.list items))
    (record : ∀ fields, (∀ field ∈ fields, motive field.2) → motive (.record fields)) (document : Document) :
    motive document := by
  refine @Document.rec motive (fun items => ∀ item ∈ items, motive item) (fun fields => ∀ field ∈ fields, motive field.2)
    (fun field => motive field.2) value list record ?_ ?_ ?_ ?_ ?_ document
  · simp
  · intro item rest first later
    exact List.forall_mem_cons.mpr ⟨first, later⟩
  · simp
  · intro field rest first later
    exact List.forall_mem_cons.mpr ⟨first, later⟩
  · exact fun _ _ content => content

mutual
/-- How many arrays and objects stand around one another at most in the text. -/
def depth : Document → Nat
  | .value plain => plain.depth
  | .list items => depthOfItems items + 1
  | .record fields => depthOfFields fields + 1

def depthOfItems : List Document → Nat
  | [] => 0
  | item :: rest => max item.depth (depthOfItems rest)

def depthOfFields : List (String × Document) → Nat
  | [] => 0
  | (_, content) :: rest => max content.depth (depthOfFields rest)
end

mutual
/-- Every value in the document passes the test. -/
def Each (test : Json → Prop) : Document → Prop
  | .value plain => test plain
  | .list items => EachItem test items
  | .record fields => EachField test fields

def EachItem (test : Json → Prop) : List Document → Prop
  | [] => True
  | item :: rest => Each test item ∧ EachItem test rest

def EachField (test : Json → Prop) : List (String × Document) → Prop
  | [] => True
  | (_, content) :: rest => Each test content ∧ EachField test rest
end

/-- The floats in the document are read back as they were. -/
def Exact : Document → Prop := Each Json.Exact

/-- No number in the document is a float. -/
def Integral : Document → Prop := Each fun plain => plain.isIntegral = true

variable {limit : Nat} {items : List Document} {fields : List (String × Document)}

theorem depthOfItems_le : depthOfItems items ≤ limit ↔ ∀ item ∈ items, item.depth ≤ limit := by
  induction items with
  | nil => simp [depthOfItems]
  | cons item rest ih => rw [depthOfItems, Nat.max_le, ih, List.forall_mem_cons]

theorem depthOfFields_le : depthOfFields fields ≤ limit ↔ ∀ field ∈ fields, field.2.depth ≤ limit := by
  induction fields with
  | nil => simp [depthOfFields]
  | cons field rest ih => rw [depthOfFields, Nat.max_le, ih, List.forall_mem_cons]

theorem depth_list_le :
    (Document.list items).depth ≤ limit ↔ ∃ inner, limit = inner + 1 ∧ ∀ item ∈ items, item.depth ≤ inner := by
  simp only [depth, ← depthOfItems_le]
  constructor
  · exact fun shallow => ⟨limit - 1, by omega, by omega⟩
  · rintro ⟨inner, rfl, shallow⟩
    exact Nat.succ_le_succ shallow

theorem depth_record_le :
    (Document.record fields).depth ≤ limit ↔ ∃ inner, limit = inner + 1 ∧ ∀ field ∈ fields, field.2.depth ≤ inner := by
  simp only [depth, ← depthOfFields_le]
  constructor
  · exact fun shallow => ⟨limit - 1, by omega, by omega⟩
  · rintro ⟨inner, rfl, shallow⟩
    exact Nat.succ_le_succ shallow

section Each

variable {test other : Json → Prop}

theorem each_list : (Document.list items).Each test ↔ ∀ item ∈ items, item.Each test := by
  rw [Each]
  induction items with
  | nil => simp [EachItem]
  | cons item rest ih => simp [EachItem, ih]

theorem each_record : (Document.record fields).Each test ↔ ∀ field ∈ fields, field.2.Each test := by
  rw [Each]
  induction fields with
  | nil => simp [EachField]
  | cons field rest ih => simp [EachField, ih]

theorem Each.imp (weaker : ∀ plain, test plain → other plain) {document : Document} (each : document.Each test) :
    document.Each other := by
  induction document using Document.induct with
  | value plain => exact weaker plain each
  | list items ih =>
    rw [each_list] at each ⊢
    exact fun item member => ih item member (each item member)
  | record fields ih =>
    rw [each_record] at each ⊢
    exact fun field member => ih field member (each field member)

end Each

theorem exact_list : (Document.list items).Exact ↔ ∀ item ∈ items, item.Exact := each_list

theorem exact_record : (Document.record fields).Exact ↔ ∀ field ∈ fields, field.2.Exact := each_record

theorem Integral.exact {document : Document} (integral : document.Integral) : document.Exact :=
  Each.imp (fun _ => exact_of_isIntegral) integral

@[simp] theorem depth_ofText_le (text : String) (limit : Nat) : (ofText text).depth ≤ limit := Nat.zero_le limit

theorem compactItems_eq (items : List Document) : compactItems items = enclosedRest ']' [] [] (items.map compact) := by
  induction items with
  | nil => rfl
  | cons item rest ih => simp [compactItems, enclosedRest, ih]

theorem compactFields_eq (fields : List (String × Document)) :
    compactFields fields = enclosedRest '}' [] [] (fields.map fun field => memberText [] field.1 field.2.compact) := by
  induction fields with
  | nil => rfl
  | cons field rest ih => simp [compactFields, enclosedRest, memberText, ih]

theorem compact_list (items : List Document) :
    (Document.list items).compact = '[' :: enclosed ']' [] [] (items.map compact) := by
  cases items with
  | nil => rfl
  | cons item rest => simp [compact, enclosed, compactItems_eq]

theorem compact_record (fields : List (String × Document)) : (Document.record fields).compact =
    '\x7b' :: enclosed '\x7d' [] [] (fields.map fun field => memberText [] field.1 field.2.compact) := by
  cases fields with
  | nil => rfl
  | cons field rest => simp [compact, enclosed, compactFields_eq, memberText]

/-- The record of the members of an object, which is what the object is written as. -/
def ofMembers (members : Values) : Document := .record (members.toList.map fun member => (member.1, .value member.2))

section Members

variable (members : Values)

theorem compact_ofMembers : (ofMembers members).compact = (Document.value (.object members)).compact := by
  rw [ofMembers, compact_record, List.map_map, compact]
  cases members with
  | nil => rfl
  | cons name above value rest =>
    simp [Json.compact, enclosed, compactMembers_eq, Ascending.toList, memberText, compact, Function.comp_def]

theorem exact_ofMembers : (ofMembers members).Exact ↔ (Document.value (.object members)).Exact := by
  rw [ofMembers, exact_record, List.forall_mem_map]
  exact Json.exact_object.symm

theorem depth_ofMembers_le : (ofMembers members).depth ≤ limit ↔ (Document.value (.object members)).depth ≤ limit := by
  rw [ofMembers, depth_record_le, depth]
  constructor
  · rintro ⟨inner, rfl, within⟩
    rw [List.forall_mem_map] at within
    exact depth_object_le.mpr within
  · intro shallow
    obtain ⟨inner, rfl⟩ : ∃ inner, limit = inner + 1 := ⟨limit - 1, by rw [Json.depth] at shallow; omega⟩
    exact ⟨inner, rfl, List.forall_mem_map.mpr (depth_object_le.mp shallow)⟩

end Members

theorem toJson_list (items : List Document) : (Document.list items).toJson = .array (items.map toJson) := by
  rw [toJson]
  congr 1
  induction items with
  | nil => rfl
  | cons item rest ih => simp [itemsToJson, ih]

theorem toJson_record (fields : List (String × Document)) :
    (Document.record fields).toJson = .object (SortedMap.ofList (fields.map fun field => (field.1, field.2.toJson))) := by
  rw [toJson]
  congr 2
  induction fields with
  | nil => rfl
  | cons field rest ih => simp [fieldsToJson, ih]

theorem solid {document : Document} (precise : document.Exact) :
    ∃ c more, document.compact = c :: more ∧ Text.isPlainBlank c = false ∧ c ≠ ']' := by
  cases document with
  | value plain => exact (layout_compact.spells plain 0 precise).solid
  | list items => exact ⟨'[', _, compact_list items, by decide, by decide⟩
  | record fields => exact ⟨'\x7b', _, compact_record fields, by decide, by decide⟩

/-- Reading the text of a document gives its value, and stops behind it. -/
theorem reads (document : Document) (precise : document.Exact) :
    ∀ limit, document.depth ≤ limit → Reads (Json.value limit) document.compact fun _ => document.toJson := by
  induction document using induct with
  | value plain => exact fun limit => value_reads layout_compact plain limit 0 precise
  | list items ih =>
    intro limit shallow blanks rest blank _
    obtain ⟨inner, rfl, within⟩ := depth_list_le.mp shallow
    rw [exact_list] at precise
    have read := itemsAfter_enclosed rest allBlank_nil allBlank_nil (fun item member => solid (precise item member))
      (fun item member => ih item member (precise item member) inner (within item member)) fun _ _ => rfl
    rw [List.append_assoc, value_eq, opening_blanks blank, compact_list, List.cons_append]
    rw [show opening ('[' :: (_ ++ rest)) = .array (_ ++ rest) from rfl]
    simp only [read, Except.map, toJson_list]
  | record fields ih =>
    intro limit shallow blanks rest blank _
    obtain ⟨inner, rfl, within⟩ := depth_record_le.mp shallow
    rw [exact_record] at precise
    have inside : ∀ field ∈ fields, Reads (Json.value inner) field.2.compact fun _ => field.2.toJson :=
      fun field member => ih field member (precise field member) inner (within field member)
    have read := membersAfter_enclosed compact (fun content _ => content.toJson) rest allBlank_nil allBlank_nil allBlank_nil inside
    rw [List.append_assoc, value_eq, opening_blanks blank, compact_record, List.cons_append]
    rw [show opening ('\x7b' :: (_ ++ rest)) = .object (_ ++ rest) from rfl]
    simp only [read, Except.map, toJson_record]

/-- A text is at least as long as its document is deep. -/
theorem depth_le_length (document : Document) : document.depth ≤ document.compact.length := by
  induction document using induct with
  | value plain => exact Json.depth_le_length layout_compact plain 0
  | list items ih =>
    rw [compact_list]
    refine depth_list_le.mpr ⟨_, List.length_cons, ?_⟩
    intro item member
    have longer : item.compact.length < (enclosed ']' [] [] (items.map compact)).length :=
      length_lt_enclosed (List.mem_map_of_mem member)
    exact Nat.le_trans (ih item member) (Nat.le_of_lt longer)
  | record fields ih =>
    rw [compact_record]
    refine depth_record_le.mpr ⟨_, List.length_cons, ?_⟩
    intro field member
    let text := fun field : String × Document => memberText [] field.1 field.2.compact
    have longer : (text field).length < (enclosed '\x7d' [] [] (fields.map text)).length :=
      length_lt_enclosed (List.mem_map_of_mem member)
    have inside : field.2.compact.length ≤ (text field).length := by
      simp only [text, memberText, List.length_append, List.length_cons]
      omega
    exact Nat.le_trans (ih field member) (Nat.le_trans inside (Nat.le_of_lt longer))

/-- The part of a text in which a document was written. -/
def part (document : Document) (limit : Nat) : Part := ⟨limit, document.compact⟩

theorem part_reads {document : Document} (precise : document.Exact) (limit : Nat) :
    Reads (Part.read limit) document.compact fun blanks => ⟨limit, blanks ++ document.compact⟩ :=
  read_of_value (document.reads precise document.depth (Nat.le_refl _)) document.depth_le_length limit

theorem ofText?_text {document : Document} (precise : document.Exact) :
    Part.ofText? document.text = some (document.part nestingLimit) := by
  have passed := part_reads precise nestingLimit [] [] allBlank_nil rfl
  rw [List.nil_append, List.append_nil] at passed
  rw [Part.ofText?, text, String.toList_ofList, passed]
  rfl

theorem value?_part {document : Document} (precise : document.Exact) (shallow : document.depth ≤ limit) :
    (document.part limit).value? = some document.toJson := by
  have read := document.reads precise limit shallow [] [] allBlank_nil rfl
  rw [List.nil_append, List.append_nil] at read
  rw [Part.value?, readWithin, part, read]
  rfl

theorem members?_part (limit : Nat) (precise : (Document.record fields).Exact) :
    ((Document.record fields).part (limit + 1)).members? =
      some (fields.map fun field => (field.1, field.2.part limit)) := by
  rw [exact_record] at precise
  have reads : ∀ field ∈ fields, Reads (Part.read limit) field.2.compact fun blanks => ⟨limit, blanks ++ field.2.compact⟩ :=
    fun field member => part_reads (precise field member) limit
  have listed := membersAfter_enclosed compact (fun content blanks => (⟨limit, blanks ++ content.compact⟩ : Part)) []
    allBlank_nil allBlank_nil allBlank_nil reads
  rw [List.append_nil] at listed
  rw [part, compact_record, Part.members?_object (skipBlanks_solid (by decide) _), listed]
  rfl

theorem items?_part (limit : Nat) (precise : (Document.list items).Exact) :
    ((Document.list items).part (limit + 1)).items? = some (items.map fun item => item.part limit) := by
  rw [exact_list] at precise
  have listed := itemsAfter_enclosed [] allBlank_nil allBlank_nil (fun item member => solid (precise item member))
    (fun item member => part_reads (precise item member) limit) fun _ _ => rfl
  rw [List.append_nil] at listed
  rw [part, compact_list, Part.items?_array (skipBlanks_solid (by decide) _), listed]
  rfl

end Document
end ScriptedTask.Wire
