import ScriptedTask.Proofs.Overlay
import ScriptedTask.Proofs.Wire.Documents
import ScriptedTask.Proofs.Wire.Inputs
import ScriptedTask.Wire.Module

/-! What is written on the wire is read back, and what was read is written in one way, whichever
spelling it was read from. -/

namespace ScriptedTask.Wire

open Json

/-- Wherever there is room for the document, it is read as what it was written for. -/
def Restores {α : Type} (decode? : Part → Option α) (found : α) (document : Document) : Prop :=
  document.Exact → ∀ limit, document.depth ≤ limit → decode? (document.part limit) = some found

/-- What is read of a part takes no more room in writing than the part has, unless the part has
less room than what is added for absent fields. -/
def Fits {α : Type} (least : Nat) (decode? : Part → Option α) (document : α → Document) : Prop :=
  ∀ part found, decode? part = some found → least ≤ part.depth → (document found).depth ≤ part.depth

section Restoring

variable {α : Type} {decode? : Part → Option α} {write : α → Document}

theorem restores_value (plain : Json) : Restores jsonFormat.value? plain (.value plain) :=
  fun precise _ shallow => Document.value?_part precise shallow

theorem restores_text (text : String) : Restores jsonFormat.text? text (.ofText text) := by
  intro precise limit shallow
  simp only [jsonFormat, Document.value?_part precise shallow]
  rfl

theorem restores_optional {found : α} {document : Document} (restores : Restores decode? found document)
    (named : document.toJson ≠ .null) : Restores (jsonFormat.optional? decode?) (some found) document := by
  intro precise limit shallow
  have read := Document.value?_part precise shallow
  have filled : jsonFormat.isNull (document.part limit) = false := by
    simp only [jsonFormat, read]
    split
    next same => exact absurd (Option.some.inj same) named
    · rfl
  rw [Format.optional?, filled, restores precise limit shallow]
  rfl

theorem restores_list (restores : ∀ item, Restores decode? item (write item)) (items : List α) :
    Restores (jsonFormat.list? decode?) items (.list (items.map write)) := by
  intro precise limit shallow
  obtain ⟨inner, rfl, within⟩ := Document.depth_list_le.mp shallow
  have parts : jsonFormat.items? ((Document.list (items.map write)).part (inner + 1)) =
      some ((items.map write).map fun item => item.part inner) := Document.items?_part inner precise
  rw [Document.exact_list] at precise
  rw [List.forall_mem_map] at precise within
  have each : ∀ item ∈ items, decode? ((write item).part inner) = some (id item) :=
    fun item member => restores item (precise item member) inner (within item member)
  have read : ((items.map write).map fun item => item.part inner).mapM decode? = some (items.map id) := by
    rw [List.map_map, List.mapM_map]
    exact mapM_some each
  rw [Format.list?, parts, Option.bind_eq_bind, Option.bind_some, read, List.map_id]

theorem restores_entries (restores : ∀ item, Restores decode? item (write item)) (entries : List (String × α)) :
    Restores (jsonFormat.entries? decode?) entries (.record (entries.map fun entry => (entry.1, write entry.2))) := by
  intro precise limit shallow
  obtain ⟨inner, rfl, within⟩ := Document.depth_record_le.mp shallow
  have parts := Document.members?_part inner precise
  rw [List.map_map] at parts
  rw [Document.exact_record] at precise
  rw [List.forall_mem_map] at precise within
  have each : ∀ entry ∈ entries, decode? ((write entry.2).part inner) = some (id entry.2) :=
    fun entry member => restores entry.2 (precise entry member) inner (within entry member)
  have read := jsonFormat.entries?_some (fun item => (write item).part inner) id parts each
  simpa only [id, List.map_id'] using read

theorem restores_values (values : Values) : Restores jsonFormat.values? values (.value (.object values)) := by
  intro precise limit shallow
  have read := restores_entries restores_value values.toList ((Document.exact_ofMembers values).mpr precise) limit
    ((Document.depth_ofMembers_le values).mpr shallow)
  have same : (Document.value (.object values)).part limit = (Document.ofMembers values).part limit := by
    rw [Document.part, Document.part, Document.compact_ofMembers]
  rw [Format.values?, same, Document.ofMembers, read, Option.map_some, Ascending.ofList_toList]

end Restoring

/-- The fields of a record were read: each one that was written, and no other. -/
structure Found (written : List (String × Document)) (fields : Fields Part) : Prop where
  given : ∀ {name document}, written.lookup name = some document → ∀ {α : Type} {decode? : Part → Option α} {found : α},
    Restores decode? found document → ∃ part, fields.lookup name = some part ∧ decode? part = some found
  absent : ∀ {name}, written.lookup name = none → fields.lookup name = none

namespace Found

variable {α : Type} {decode? : Part → Option α} {written : List (String × Document)} {fields : Fields Part}
  {document : Document} {value : α} (found : Found written fields)

include found

theorem required (name : String) (named : written.lookup name = some document) (restores : Restores decode? value document) :
    fields.required? name decode? = some value := by
  obtain ⟨part, looked, decoded⟩ := found.given named restores
  rw [Fields.required?, looked]
  exact decoded

theorem orElse (name : String) (named : written.lookup name = some document) (restores : Restores decode? value document)
    (default : α) : fields.orElse? name default decode? = some value := by
  obtain ⟨part, looked, decoded⟩ := found.given named restores
  rw [Fields.orElse?, looked]
  exact decoded

theorem orElse_absent (name : String) (missing : written.lookup name = none) (default : α) :
    fields.orElse? name default decode? = some default := by
  rw [Fields.orElse?, found.absent missing]

end Found

theorem lookup_map {α β : Type} (f : α → β) (pairs : List (String × α)) (name : String) :
    (pairs.map fun pair => (pair.1, f pair.2)).lookup name = (pairs.lookup name).map f := by
  induction pairs with
  | nil => rfl
  | cons pair rest ih =>
    rw [List.map_cons, List.lookup_cons, List.lookup_cons, ih]
    split <;> rfl

/-- Where there is room for a record, its fields are found. -/
theorem fields?_part (names : List String) {written : List (String × Document)} {limit : Nat}
    (known : ∀ field ∈ written, field.1 ∈ names) (distinct : (written.map Prod.fst).Nodup)
    (precise : (Document.record written).Exact) (shallow : (Document.record written).depth ≤ limit) :
    ∃ fields, jsonFormat.fields? names ((Document.record written).part limit) = some fields ∧ Found written fields := by
  obtain ⟨inner, rfl, within⟩ := Document.depth_record_le.mp shallow
  refine ⟨written.map fun field => (field.1, field.2.part inner), ?_, ?_, ?_⟩
  · apply Format.fields?_some (Document.members?_part inner precise)
    · exact List.forall_mem_map.mpr known
    · rwa [List.map_map]
  · intro name document named α decode? found restores
    have member := (mem_iff_lookup distinct).mpr named
    rw [Document.exact_record] at precise
    refine ⟨document.part inner, ?_, restores (precise _ member) inner (within _ member)⟩
    rw [lookup_map (Document.part · inner), named]
    rfl
  · intro name missing
    rw [lookup_map (Document.part · inner), missing]
    rfl

theorem restores_deleteInfo (info : DeleteInfo) : Restores (DeleteInfo.decode? jsonFormat) info info.document := by
  intro precise limit shallow
  obtain ⟨fields, read, found⟩ := fields?_part DeleteInfo.fieldNames (by simp [DeleteInfo.fieldNames])
    (by simp) precise shallow
  have url := found.required "url" rfl (restores_text info.url)
  have user := found.required "userId" rfl (restores_text info.userId)
  rw [DeleteInfo.decode?, DeleteInfo.document, read]
  simp only [Option.bind_eq_bind, Option.bind_some, Option.pure_def, url, user]

theorem restores_module (module : Module) : Restores (Module.decode? jsonFormat) module module.document := by
  intro precise limit shallow
  obtain ⟨id, instanceId, moduleType, data, keys, deleteInfo⟩ := module
  obtain ⟨fields, read, found⟩ := fields?_part Module.fieldNames
    (by cases deleteInfo <;> simp [Module.fieldNames]) (by cases deleteInfo <;> simp) precise shallow
  have first := found.orElse "id" rfl (restores_text id)
  have second := found.orElse "processInstanceId" rfl (restores_text instanceId)
  have third := found.orElse "moduleType" rfl (restores_text moduleType)
  have fourth := found.orElse "moduleData" rfl (restores_values data)
  have fifth := found.orElse "keys" rfl (restores_list restores_text keys)
  have last : fields.orElse? "deleteInfo" none (jsonFormat.optional? (DeleteInfo.decode? jsonFormat)) = some deleteInfo := by
    cases deleteInfo with
    | none => exact found.orElse_absent "deleteInfo" rfl none
    | some info => exact found.orElse "deleteInfo" rfl (restores_optional (restores_deleteInfo info) nofun) none
  rw [Module.decode?, Module.document, read]
  simp only [Option.bind_eq_bind, Option.bind_some, Option.pure_def, first, second, third, fourth, fifth, last]

theorem restores_outcome (outcome : Outcome) : Restores (Outcome.decode? jsonFormat) outcome outcome.document := by
  intro precise limit shallow
  obtain ⟨fields, read, found⟩ := fields?_part Outcome.fieldNames (by simp [Outcome.fieldNames])
    (by simp) precise shallow
  have modules := found.required "modules" rfl (restores_list restores_module outcome.modules)
  have outputs := found.required "outputs" rfl (restores_values outcome.outputs)
  rw [Outcome.decode?, Outcome.document, read]
  simp only [Option.bind_eq_bind, Option.bind_some, Option.pure_def, modules, outputs]

theorem restores_input (input : TaskInput) : Restores (TaskInput.decode? jsonFormat) input input.document := by
  intro precise limit shallow
  obtain ⟨value, typeTag⟩ := input
  obtain ⟨fields, read, found⟩ := fields?_part TaskInput.fieldNames
    (by cases typeTag <;> simp [TaskInput.fieldNames]) (by cases typeTag <;> simp) precise shallow
  have first := found.orElse "value" rfl (restores_value value)
  have second : fields.orElse? "type" none (jsonFormat.optional? jsonFormat.text?) = some typeTag := by
    cases typeTag with
    | none => exact found.orElse_absent "type" rfl none
    | some tag => exact found.orElse "type" rfl (restores_optional (restores_text tag) nofun) none
  rw [TaskInput.decode?, TaskInput.document, read]
  simp only [Option.bind_eq_bind, Option.bind_some, Option.pure_def, first, second]

theorem restores_inputs (inputs : Inputs) : Restores (Inputs.decode? jsonFormat) inputs inputs.document := by
  intro precise limit shallow
  rw [Inputs.decode?, Inputs.document, restores_entries restores_input inputs.entries precise limit shallow,
    Option.map_some, Inputs.ofList_entries]

theorem restores_task (task : Task) : Restores (Task.decode? jsonFormat) task task.document := by
  intro precise limit shallow
  obtain ⟨fields, read, found⟩ := fields?_part Task.fieldNames (by simp [Task.fieldNames])
    (by simp) precise shallow
  have id := found.orElse "id" rfl (restores_text task.id)
  have instanceId := found.orElse "processInstanceId" rfl (restores_text task.instanceId)
  have inputs := found.orElse "variables" rfl (restores_inputs task.inputs)
  rw [Task.decode?, Task.document, read]
  simp only [Option.bind_eq_bind, Option.bind_some, Option.pure_def, id, instanceId, inputs]

section Fitting

variable {α : Type} {decode? : Part → Option α} {write : α → Document} {least : Nat}

theorem fits_value : Fits 0 jsonFormat.value? .value := fun _ _ found _ => Part.value?_depth found

theorem fits_text : Fits 0 jsonFormat.text? .ofText := fun _ _ _ _ => Nat.zero_le _

theorem fits_list (fits : Fits least decode? write) :
    Fits (least + 1) (jsonFormat.list? decode?) fun items => .list (items.map write) := by
  intro part items read enough
  obtain ⟨parts, listed, decoded⟩ := Option.bind_eq_some_iff.mp read
  refine Document.depth_list_le.mpr ⟨part.depth - 1, by omega, List.forall_mem_map.mpr ?_⟩
  intro item member
  obtain ⟨source, held, found⟩ := exists_of_forall₂ (mapM_some_iff.mp decoded) member
  have further := Part.items?_depth listed source held
  have within := fits source item found (by omega)
  omega

theorem fits_entries (fits : Fits least decode? write) :
    Fits (least + 1) (jsonFormat.entries? decode?) fun entries => .record (entries.map fun entry => (entry.1, write entry.2)) := by
  intro part entries read enough
  obtain ⟨members, listed, sources⟩ := Format.entries?_from read
  refine Document.depth_record_le.mpr ⟨part.depth - 1, by omega, List.forall_mem_map.mpr ?_⟩
  intro entry member
  obtain ⟨source, held, found⟩ := sources entry member
  have further := Part.members?_depth listed source held
  have within := fits source.2 entry.2 found (by omega)
  change (write entry.2).depth ≤ part.depth - 1
  omega

theorem fits_values : Fits 1 jsonFormat.values? fun values => .value (.object values) := by
  intro part values read enough
  obtain ⟨entries, listed, rfl⟩ := Option.map_eq_some_iff.mp read
  have within := fits_entries fits_value part entries listed enough
  obtain ⟨inner, same, within⟩ := Document.depth_record_le.mp within
  rw [List.forall_mem_map] at within
  rw [← Document.depth_ofMembers_le, Document.ofMembers]
  refine Document.depth_record_le.mpr ⟨inner, same, List.forall_mem_map.mpr ?_⟩
  exact fun member present => within member (Ascending.mem_of_mem_ofList present)

theorem fits_optional (fits : Fits least decode? write) {part : Part} {found : α}
    (read : jsonFormat.optional? decode? part = some (some found)) (enough : least ≤ part.depth) :
    (write found).depth ≤ part.depth := by
  unfold Format.optional? at read
  split at read
  · cases read
  · obtain ⟨_, decoded, ⟨⟩⟩ := Option.map_eq_some_iff.mp read
    exact fits part found decoded enough

/-- All fields that were given stand in a record of the given room. -/
def Room (inner : Nat) (fields : Fields Part) : Prop := ∀ field ∈ fields, field.2.depth = inner

theorem room_of_fields? {names : List String} {part : Part} {fields : Fields Part} (enough : 0 < part.depth)
    (read : jsonFormat.fields? names part = some fields) : ∃ inner, part.depth = inner + 1 ∧ Room inner fields := by
  refine ⟨part.depth - 1, by omega, ?_⟩
  intro field member
  rcases Format.fields?_from read with ⟨members, listed, inside⟩ | ⟨items, listed, inside⟩
  · have further := Part.members?_depth listed field (inside field member)
    omega
  · have further := Part.items?_depth listed field.2 (inside field member)
    omega

variable {inner : Nat} {fields : Fields Part} {name : String} {found default : α}

theorem Room.required (room : Room inner fields) (fits : Fits least decode? write) (enough : least ≤ inner)
    (read : fields.required? name decode? = some found) : (write found).depth ≤ inner := by
  obtain ⟨field, member, decoded⟩ := Fields.required?_from read
  have here := room field member
  have within := fits field.2 found decoded (by omega)
  omega

theorem Room.orElse (room : Room inner fields) (fits : Fits least decode? write) (enough : least ≤ inner)
    (absent : (write default).depth ≤ inner) (read : fields.orElse? name default decode? = some found) :
    (write found).depth ≤ inner := by
  rcases Fields.orElse?_from read with rfl | ⟨field, member, decoded⟩
  · exact absent
  · have here := room field member
    have within := fits field.2 found decoded (by omega)
    omega

end Fitting

theorem fits_deleteInfo : Fits 1 (DeleteInfo.decode? jsonFormat) DeleteInfo.document := by
  intro part info read enough
  simp only [DeleteInfo.decode?, Option.bind_eq_bind, Option.bind_eq_some_iff] at read
  obtain ⟨fields, read, url, first, user, second, ⟨⟩⟩ := read
  obtain ⟨inner, same, room⟩ := room_of_fields? enough read
  refine Document.depth_record_le.mpr ⟨inner, same, ?_⟩
  simp

theorem fits_module : Fits 2 (Module.decode? jsonFormat) Module.document := by
  intro part module read enough
  simp only [Module.decode?, Option.bind_eq_bind, Option.bind_eq_some_iff] at read
  obtain ⟨fields, read, id, -, instanceId, -, moduleType, -, data, fourth, keys, fifth, deleteInfo, last, ⟨⟩⟩ := read
  obtain ⟨inner, same, room⟩ := room_of_fields? (by omega) read
  have positive : 1 ≤ inner := by omega
  have noData : (Document.value (.object SortedMap.empty)).depth ≤ inner := positive
  have noKeys : (Document.list (([] : List String).map .ofText)).depth ≤ inner := positive
  have dataFits := room.orElse fits_values positive noData fourth
  have keysFit := room.orElse (fits_list fits_text) positive noKeys fifth
  -- Null and nothing both stand for no delete info, and then none is written.
  have deletion : ∀ info, deleteInfo = some info → info.document.depth ≤ inner := by
    rintro info rfl
    rcases Fields.orElse?_from last with missing | ⟨field, member, decoded⟩
    · cases missing
    · have here := room field member
      have within := fits_optional fits_deleteInfo decoded (by omega)
      omega
  refine Document.depth_record_le.mpr ⟨inner, same, ?_⟩
  cases deleteInfo with
  | none => simp [dataFits, keysFit]
  | some info => simp [dataFits, keysFit, deletion info rfl]

theorem fits_outcome : Fits 4 (Outcome.decode? jsonFormat) Outcome.document := by
  intro part outcome read enough
  simp only [Outcome.decode?, Option.bind_eq_bind, Option.bind_eq_some_iff] at read
  obtain ⟨fields, read, modules, first, outputs, second, ⟨⟩⟩ := read
  obtain ⟨inner, same, room⟩ := room_of_fields? (by omega) read
  have modulesFit := room.required (fits_list fits_module) (by omega) first
  have outputsFit := room.required fits_values (by omega) second
  refine Document.depth_record_le.mpr ⟨inner, same, ?_⟩
  simp [modulesFit, outputsFit]

theorem fits_input : Fits 1 (TaskInput.decode? jsonFormat) TaskInput.document := by
  intro part input read enough
  simp only [TaskInput.decode?, Option.bind_eq_bind, Option.bind_eq_some_iff] at read
  obtain ⟨fields, read, value, first, typeTag, -, ⟨⟩⟩ := read
  obtain ⟨inner, same, room⟩ := room_of_fields? enough read
  have noValue : (Document.value .null).depth ≤ inner := Nat.zero_le inner
  have valueFits := room.orElse fits_value (Nat.zero_le inner) noValue first
  refine Document.depth_record_le.mpr ⟨inner, same, ?_⟩
  cases typeTag <;> simp [valueFits]

theorem fits_inputs : Fits 2 (Inputs.decode? jsonFormat) Inputs.document := by
  intro part inputs read enough
  obtain ⟨entries, listed, rfl⟩ := Option.map_eq_some_iff.mp read
  obtain ⟨inner, same, within⟩ := Document.depth_record_le.mp (fits_entries fits_input part entries listed enough)
  rw [List.forall_mem_map] at within
  refine Document.depth_record_le.mpr ⟨inner, same, List.forall_mem_map.mpr ?_⟩
  exact fun entry member => within entry (Inputs.mem_of_mem_ofList member)

theorem fits_task : Fits 3 (Task.decode? jsonFormat) Task.document := by
  intro part task read enough
  simp only [Task.decode?, Option.bind_eq_bind, Option.bind_eq_some_iff] at read
  obtain ⟨fields, read, id, -, instanceId, -, inputs, third, ⟨⟩⟩ := read
  obtain ⟨inner, same, room⟩ := room_of_fields? (by omega) read
  have noInputs : Inputs.empty.document.depth ≤ inner := by
    change 1 ≤ inner
    omega
  have inputsFit := room.orElse fits_inputs (by omega) noInputs third
  refine Document.depth_record_le.mpr ⟨inner, same, ?_⟩
  simp [inputsFit]

/-- How the values of a type are read and written on the wire. -/
structure WireForm (α : Type) where
  decode? : Part → Option α
  document : α → Document

namespace WireForm

variable {α : Type}

/-- The value in a text. -/
def read? (form : WireForm α) (text : String) : Option α := Part.ofText? text >>= form.decode?

def write (form : WireForm α) (value : α) : String := (form.document value).text

/-- Values without floats are read back from what is written for them, if they nest no deeper than
readers go. What was read from a text, in whichever spelling, does not nest too deep, so it is read
back and written the same again. -/
structure Stable (form : WireForm α) : Prop where
  back : ∀ value, (form.document value).Exact → (form.document value).depth ≤ nestingLimit →
    form.read? (form.write value) = some value
  again : ∀ text value, form.read? text = some value → (form.document value).Exact →
    form.read? (form.write value) = some value

theorem stable {form : WireForm α} {least : Nat}
    (restores : ∀ value, Restores form.decode? value (form.document value)) (fits : Fits least form.decode? form.document)
    (enough : least ≤ nestingLimit) : form.Stable := by
  have back : ∀ value, (form.document value).Exact → (form.document value).depth ≤ nestingLimit →
      form.read? (form.write value) = some value := by
    intro value precise shallow
    rw [read?, write, Document.ofText?_text precise]
    exact restores value precise nestingLimit shallow
  refine ⟨back, ?_⟩
  intro text value read precise
  obtain ⟨part, whole, decoded⟩ := Option.bind_eq_some_iff.mp read
  -- The reader has checked the depth of the text, and the value is no deeper than that.
  have outermost := Part.ofText?_depth whole
  have shallow := fits part value decoded (by omega)
  exact back value precise (by omega)

end WireForm

def moduleForm : WireForm Module := ⟨Module.decode? jsonFormat, Module.document⟩

def deleteInfoForm : WireForm DeleteInfo := ⟨DeleteInfo.decode? jsonFormat, DeleteInfo.document⟩

def outcomeForm : WireForm Outcome := ⟨Outcome.decode? jsonFormat, Outcome.document⟩

def inputForm : WireForm TaskInput := ⟨TaskInput.decode? jsonFormat, TaskInput.document⟩

def taskForm : WireForm Task := ⟨Task.decode? jsonFormat, Task.document⟩

/-- Every form on the wire is stable, and the inputs of a task keep the order of its text. -/
theorem wire_forms_are_stable :
    moduleForm.Stable ∧ deleteInfoForm.Stable ∧ outcomeForm.Stable ∧ inputForm.Stable ∧ taskForm.Stable ∧
      ∀ text task, taskForm.read? text = some task → ∃ part written, Part.ofText? text = some part ∧
        Task.writtenInputs? jsonFormat part = some written ∧ task.inputs.InOrder jsonFormat written := by
  refine ⟨WireForm.stable restores_module fits_module (by decide),
    WireForm.stable restores_deleteInfo fits_deleteInfo (by decide),
    WireForm.stable restores_outcome fits_outcome (by decide),
    WireForm.stable restores_input fits_input (by decide), WireForm.stable restores_task fits_task (by decide), ?_⟩
  intro text task read
  obtain ⟨part, whole, decoded⟩ := Option.bind_eq_some_iff.mp read
  obtain ⟨written, listed, inOrder⟩ := Task.inputs_inOrder decoded
  exact ⟨part, written, whole, listed, inOrder⟩

def repeatedInput : String :=
  "\x7b\"note\": 1.5, \"variables\": \x7b\"b\": \x7b\"type\": null\x7d, \"a\": [7], \"b\": [5, \"T\"]\x7d, \"id\": \"t\"\x7d"

def repeatedTask : Task where
  id := "t"
  inputs := ⟨[("b", ⟨.integer 5 (by decide), some "T"⟩), ("a", ⟨.integer 7 (by decide), none⟩)], by decide⟩

/-- A member that is no field, a repeated name, null as a type, an absent field and inputs as
lists: the text is read, and written in the one way that is read as the same task. -/
theorem repeated_input_is_written_once :
    taskForm.read? repeatedInput = some repeatedTask ∧
    taskForm.write repeatedTask =
      "\x7b\"id\":\"t\",\"processInstanceId\":\"\",\"variables\":\x7b\"b\":\x7b\"value\":5,\"type\":\"T\"\x7d,\"a\":\x7b\"value\":7\x7d\x7d\x7d" ∧
    taskForm.read? (taskForm.write repeatedTask) = some repeatedTask ∧
    ∃ part written, Part.ofText? repeatedInput = some part ∧ Task.writtenInputs? jsonFormat part = some written ∧
      repeatedTask.inputs.InOrder jsonFormat written := by
  obtain ⟨-, -, -, -, tasks, ordered⟩ := wire_forms_are_stable
  have read : taskForm.read? repeatedInput = some repeatedTask := rfl
  have integral : repeatedTask.document.Integral :=
    ⟨rfl, rfl, ⟨⟨rfl, rfl, trivial⟩, ⟨rfl, trivial⟩, trivial⟩, trivial⟩
  exact ⟨read, by decide +kernel, tasks.again repeatedInput repeatedTask read integral.exact,
    ordered repeatedInput repeatedTask read⟩

end ScriptedTask.Wire
