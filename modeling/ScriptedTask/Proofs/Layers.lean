import ScriptedTask.Proofs.Overlay
import ScriptedTask.Proofs.Settings
import ScriptedTask.Proofs.Wire.Formats
import ScriptedTask.Storage.Tree

/-! Loading the configuration. The environment lies over the file and the file over the defaults, one setting at a
time, and only what comes of it has to be valid. -/

namespace ScriptedTask

open Wire

namespace Configuration

section Files

/-- The fields that a file gives: those of a record, none of them twice, or a row of them from the first one on. A
file that is not there gives none. -/
inductive Gives : Except FileError String → Fields Json.Part → Prop
  | missing (reason : String) : Gives (.error (.missing reason)) []
  | record {text : String} {part : Json.Part} {members : Fields Json.Part} (parsed : Json.Part.ofText? text = some part)
      (listed : part.members? = some members) (once : ∀ name ∈ fieldNames, (members.map Prod.fst).count name ≤ 1) :
      Gives (.ok text) members
  | row {text : String} {part : Json.Part} {items : List Json.Part} (parsed : Json.Part.ofText? text = some part)
      (other : part.members? = none) (listed : part.items? = some items) (fits : items.length ≤ fieldNames.length) :
      Gives (.ok text) (fieldNames.zip items)

structure Based (fields : Fields Json.Part) (config : Configuration) : Prop where
  timeout : Setting.timeout.Based fields config.scriptTimeoutMs
  strict : Setting.strict.Based fields config.strictDeref
  memory : Setting.memory.Based fields config.memoryLimit

/-- The file reads as a configuration. -/
def Written (content : Except FileError String) (config : Configuration) : Prop :=
  ∃ fields, Gives content fields ∧ Based fields config

variable {part : Json.Part} {fields : Fields Json.Part} {config : Configuration}

theorem decode?_iff : decode? jsonFormat part = some config ↔
    ∃ fields, jsonFormat.fields? fieldNames part = some fields ∧ Based fields config := by
  simp only [decode?, Option.bind_eq_bind, Option.bind_eq_some_iff]
  constructor
  · rintro ⟨fields, given, timeout, timed, strict, flagged, memory, limited, ⟨⟩⟩
    exact ⟨fields, given, Setting.timeout_readBy.orElse?_iff.mp timed, Setting.strict_readBy.orElse?_iff.mp flagged,
      Setting.memory_readBy.orElse?_iff.mp limited⟩
  · rintro ⟨fields, given, timed, flagged, limited⟩
    exact ⟨fields, given, _, Setting.timeout_readBy.orElse?_iff.mpr timed, _,
      Setting.strict_readBy.orElse?_iff.mpr flagged, _, Setting.memory_readBy.orElse?_iff.mpr limited, rfl⟩

/-- Members that are no fields do not matter. -/
theorem based_filter : Based (fields.filter fun member => fieldNames.contains member.1) config ↔ Based fields config := by
  have kept (name : String) (field : fieldNames.contains name = true) :
      (fields.filter fun member => fieldNames.contains member.1).lookup name = fields.lookup name := by
    rw [lookup_filter fieldNames.contains, field]
    cases fields.lookup name <;> rfl
  constructor
  · intro ⟨timed, flagged, limited⟩
    exact ⟨timed.of_lookup_eq (kept _ (by decide)).symm, flagged.of_lookup_eq (kept _ (by decide)).symm,
      limited.of_lookup_eq (kept _ (by decide)).symm⟩
  · intro ⟨timed, flagged, limited⟩
    exact ⟨timed.of_lookup_eq (kept _ (by decide)), flagged.of_lookup_eq (kept _ (by decide)),
      limited.of_lookup_eq (kept _ (by decide))⟩

theorem ofText?_iff {text : String} :
    (Json.Part.ofText? text).bind (decode? jsonFormat) = some config ↔ Written (.ok text) config := by
  simp only [Option.bind_eq_some_iff, decode?_iff, Format.fields?_iff]
  constructor
  · rintro ⟨part, parsed, _, ⟨members, listed, once, rfl⟩ | ⟨other, items, listed, fits, rfl⟩, based⟩
    · exact ⟨members, .record parsed listed once, based_filter.mp based⟩
    · exact ⟨_, .row parsed other listed fits, based⟩
  · rintro ⟨_, ⟨⟩ | ⟨parsed, listed, once⟩ | ⟨parsed, other, listed, fits⟩, based⟩
    · exact ⟨_, parsed, _, .inl ⟨_, listed, once, rfl⟩, based_filter.mpr based⟩
    · exact ⟨_, parsed, _, .inr ⟨other, _, listed, fits, rfl⟩, based⟩

/-- The file cannot be read, or is no configuration. -/
inductive FileFault (path : String) : Except FileError String → ConfigurationError → Prop
  | unreadable (reason : String) : FileFault path (.error (.other reason)) (.unreadable path reason)
  | malformed {text : String} (unwritten : ∀ config, ¬Written (.ok text) config) :
      FileFault path (.ok text) (.malformed path unreadableText)

variable {path : String} {content : Except FileError String} {error : ConfigurationError}

theorem written_missing_iff {reason : String} : Written (.error (.missing reason)) config ↔ config = {} := by
  constructor
  · rintro ⟨_, ⟨⟩, timeout, strict, memory⟩
    obtain ⟨scriptTimeoutMs, strictDeref, memoryLimit⟩ := config
    cases Setting.based_nil.mp timeout
    cases Setting.based_nil.mp strict
    cases Setting.based_nil.mp memory
    rfl
  · rintro rfl
    exact ⟨[], .missing reason, .absent rfl, .absent rfl, .absent rfl⟩

theorem ofFile_ok_iff : ofFile path content = .ok config ↔ Written content config := by
  unfold ofFile
  split
  next text =>
    rw [← ofText?_iff]
    split
    next found same => rw [same, Except.ok.injEq, Option.some.injEq]
    next none => rw [none]; exact iff_of_false nofun nofun
  next reason => rw [written_missing_iff, Except.ok.injEq, eq_comm]
  next reason => exact iff_of_false nofun nofun

theorem ofFile_error_iff : ofFile path content = .error error ↔ FileFault path content error := by
  unfold ofFile
  split
  next text =>
    split
    next config same =>
      refine iff_of_false nofun fun fault => ?_
      cases fault with
      | malformed unwritten => exact unwritten config (ofText?_iff.mp same)
    next none =>
      have unwritten : ∀ config, ¬Written (.ok text) config := by
        intro config written
        rw [← ofText?_iff, none] at written
        cases written
      constructor
      · rintro ⟨⟩
        exact .malformed unwritten
      · rintro ⟨⟩
        rfl
  next reason => exact iff_of_false nofun nofun
  next reason =>
    constructor
    · rintro ⟨⟩
      exact .unreadable reason
    · rintro ⟨⟩
      rfl

end Files

section Faults

/-- The first fault of a row. -/
def FirstFault : List (ConfigurationError → Prop) → ConfigurationError → Prop
  | [], _ => False
  | fault :: later, error => fault error ∨ (∀ other, ¬fault other) ∧ FirstFault later error

variable {fault : ConfigurationError → Prop} {later row : List (ConfigurationError → Prop)} {error : ConfigurationError}

theorem exists_firstFault_iff : (∃ error, FirstFault row error) ↔ ∃ fault ∈ row, ∃ error, fault error := by
  induction row with
  | nil => exact iff_of_false nofun (by simp)
  | cons fault later ih =>
    simp only [List.mem_cons, exists_eq_or_imp, ← ih, FirstFault]
    by_cases faulty : ∃ error, fault error
    · obtain ⟨error, found⟩ := faulty
      exact iff_of_true ⟨error, .inl found⟩ (.inl ⟨error, found⟩)
    · have none := not_exists.mp faulty
      simp [none]

theorem bind_error_iff {α β : Type} {first : Except ConfigurationError α} {next : α → Except ConfigurationError β}
    (here : ∀ {error}, first = .error error ↔ fault error)
    (there : ∀ found, first = .ok found → (next found = .error error ↔ FirstFault later error)) :
    (first >>= next) = .error error ↔ FirstFault (fault :: later) error := by
  cases ended : first with
  | ok found =>
    have passed : ∀ other, ¬fault other := by
      intro other faulty
      rw [here.mpr faulty] at ended
      cases ended
    rw [FirstFault, ← there found ended]
    constructor
    · exact fun failed => .inr ⟨passed, failed⟩
    · exact fun failed => (failed.resolve_left (passed error)).2
  | error other =>
    have faulty : fault other := here.mp ended
    constructor
    · rintro ⟨⟩
      exact .inl faulty
    · rintro (again | ⟨none, -⟩)
      · cases ended.symm.trans (here.mpr again)
        rfl
      · exact absurd faulty (none other)

end Faults

section Layers

/-- What comes of the environment laid over the file. -/
def Settled (environment : Environment) (content : Except FileError String) (config : Configuration) : Prop :=
  ∃ base, Written content base ∧
    Setting.timeout.Over environment base.scriptTimeoutMs config.scriptTimeoutMs ∧
    Setting.strict.Over environment base.strictDeref config.strictDeref ∧
    Setting.memory.Over environment base.memoryLimit config.memoryLimit

/-- What can be wrong with that. -/
def rangeFaults (environment : Environment) (content : Except FileError String) : List (ConfigurationError → Prop) :=
  [fun error => error = .invalid "scriptTimeoutMs" "must be greater than zero" ∧
      ∃ config, Settled environment content config ∧ config.scriptTimeoutMs = 0,
    fun error => error = .invalid "scriptMemoryLimitBytes" "must be greater than zero when set" ∧
      ∃ config, Settled environment content config ∧ config.memoryLimit = some 0]

/-- All that can be wrong, in the order in which it is looked at. -/
def faults (environment : Environment) (path : String) (content : Except FileError String) :
    List (ConfigurationError → Prop) :=
  FileFault path content :: Setting.timeout.Malformed environment :: Setting.strict.Malformed environment ::
    Setting.memory.Malformed environment :: rangeFaults environment content

variable {environment : Environment} {path : String} {content : Except FileError String} {base config : Configuration}
  {error : ConfigurationError}

theorem override_ok_iff : base.override environment = .ok config ↔
    Setting.timeout.Over environment base.scriptTimeoutMs config.scriptTimeoutMs ∧
    Setting.strict.Over environment base.strictDeref config.strictDeref ∧
    Setting.memory.Over environment base.memoryLimit config.memoryLimit := by
  have laid {α : Type} (below : α) (said : Option α) : said.getD below = said.elim below id := by cases said <;> rfl
  have limited (said : Option Nat) : said.orElse (fun () => base.memoryLimit) = said.elim base.memoryLimit some := by
    cases said <;> rfl
  rw [← Setting.timeout_readBy.setting?_ok_iff, ← Setting.strict_readBy.setting?_ok_iff,
    ← Setting.memory_readBy.setting?_ok_iff]
  simp only [override, bind_ok, laid, limited]
  constructor
  · rintro ⟨timeout, timed, strict, flagged, memory, bounded, ⟨⟩⟩
    exact ⟨⟨timeout, timed, rfl⟩, ⟨strict, flagged, rfl⟩, memory, bounded, rfl⟩
  · rintro ⟨⟨timeout, timed, timeout_eq⟩, ⟨strict, flagged, strict_eq⟩, memory, bounded, memory_eq⟩
    refine ⟨timeout, timed, strict, flagged, memory, bounded, ?_⟩
    rw [timeout_eq, strict_eq, memory_eq]
    rfl

theorem settled_iff (path : String) : (ofFile path content >>= override environment) = .ok config ↔
    Settled environment content config := by
  simp only [bind_ok, ofFile_ok_iff, override_ok_iff, Settled]

theorem validate_ok_iff : config.validate = .ok () ↔ config.scriptTimeoutMs ≠ 0 ∧ config.memoryLimit ≠ some 0 := by
  unfold validate
  split
  next zero => exact iff_of_false nofun fun valid => valid.1 zero
  next positive =>
    split
    next zero => exact iff_of_false nofun fun valid => valid.2 zero
    next limited => exact iff_of_true rfl ⟨positive, limited⟩

theorem layered_ok_iff : layered environment path content = .ok config ↔
    Settled environment content config ∧ config.scriptTimeoutMs ≠ 0 ∧ config.memoryLimit ≠ some 0 := by
  rw [← settled_iff path, ← validate_ok_iff]
  simp only [layered, bind_ok]
  constructor
  · rintro ⟨base, read, found, laid, ⟨⟩, valid, ⟨⟩⟩
    exact ⟨⟨base, read, laid⟩, valid⟩
  · rintro ⟨⟨base, read, laid⟩, valid⟩
    exact ⟨base, read, config, laid, (), valid, rfl⟩

theorem validate_error_iff {found : Configuration} (settled : ∀ config, Settled environment content config ↔ config = found) :
    (found.validate >>= fun () => (pure found : Except ConfigurationError Configuration)) = .error error ↔
      FirstFault (rangeFaults environment content) error := by
  simp only [rangeFaults, FirstFault, settled, exists_eq_left]
  unfold validate
  split
  next zero => simp [zero, eq_comm, Bind.bind, Except.bind]
  next positive =>
    split
    next zero => simp [zero, positive, eq_comm, Bind.bind, Except.bind]
    next limited => simp [positive, limited, Bind.bind, Except.bind, Pure.pure, Except.pure]

theorem layered_error_iff : layered environment path content = .error error ↔
    FirstFault (faults environment path content) error := by
  simp only [layered, override, bind_assoc, pure_bind]
  refine bind_error_iff ofFile_error_iff fun base read => ?_
  refine bind_error_iff Setting.timeout_readBy.setting?_error_iff fun timeout timed => ?_
  refine bind_error_iff Setting.strict_readBy.setting?_error_iff fun strict flagged => ?_
  refine bind_error_iff Setting.memory_readBy.setting?_error_iff fun memory bounded => ?_
  refine validate_error_iff fun config => ?_
  -- all that was read is known by now, and so is the one configuration that comes of it
  have laid : (ofFile path content >>= override environment) = .ok _ :=
    bind_ok.mpr ⟨base, read, bind_ok.mpr ⟨timeout, timed, bind_ok.mpr ⟨strict, flagged, bind_ok.mpr
      ⟨memory, bounded, rfl⟩⟩⟩⟩
  rw [← settled_iff path, laid, Except.ok.injEq, eq_comm]

/-- Wherever a value comes from, it is within 64 bits. -/
theorem Settled.bounded (settled : Settled environment content config) :
    config.scriptTimeoutMs < 0x10000000000000000 ∧ ∀ limit, config.memoryLimit = some limit → limit < 0x10000000000000000 := by
  obtain ⟨base, ⟨fields, -, based⟩, timeout, -, memory⟩ := settled
  have whole {value : Nat} (inRange : InRange value) : value < 0x10000000000000000 := by
    unfold InRange at inRange
    omega
  constructor
  · refine timeout.satisfies (· < 0x10000000000000000) (based.timeout.satisfies (· < 0x10000000000000000) (by decide) ?_) Counts.bounded
    exact fun ⟨inRange, _⟩ => whole inRange
  · refine memory.satisfies (fun limit => ∀ value, limit = some value → value < 0x10000000000000000)
      (based.memory.satisfies (fun limit => ∀ value, limit = some value → value < 0x10000000000000000) nofun ?_) ?_
    · rintro json _ (⟨-, rfl⟩ | ⟨value, rfl, inRange, -⟩) _ ⟨⟩
      exact whole inRange
    · rintro text _ ⟨value, rfl, counts⟩ _ ⟨⟩
      exact counts.bounded

end Layers

/-- A configuration is loaded just if the file reads as one, every variable that is set and not blank says a value,
and what comes of the variables laid over the file has neither a timeout nor a limit of zero; that is what is loaded.
Otherwise the first of these faults is the error. -/
theorem layers_are_exact {σ : Type} (files : FileAccess (StateM σ)) (environment : Environment) (path : String)
    (content : Except FileError String) (world later : σ) (read : (files.read path).run world = (content, later)) :
    ∃ result, (load files environment path).run world = (result, later) ∧
      (∀ config, result = .ok config ↔
        Settled environment content config ∧ config.scriptTimeoutMs ≠ 0 ∧ config.memoryLimit ≠ some 0) ∧
      (∀ error, result = .error error ↔ FirstFault (faults environment path content) error) ∧
      ((∃ error, result = .error error) ↔ ∃ fault ∈ faults environment path content, ∃ error, fault error) ∧
      ∀ config, result = .ok config →
        (1 ≤ config.scriptTimeoutMs ∧ config.scriptTimeoutMs < 0x10000000000000000) ∧
        (∀ limit, config.memoryLimit = some limit → 1 ≤ limit ∧ limit < 0x10000000000000000) ∧
        config.runSettings = ⟨config.scriptTimeoutMs, config.strictDeref, config.memoryLimit⟩ := by
  refine ⟨layered environment path content, ?_, fun config => layered_ok_iff, fun error => layered_error_iff, ?_, ?_⟩
  · rw [load, StateT.run_bind, read]
    rfl
  · simp only [layered_error_iff, exists_firstFault_iff]
  · intro config loaded
    obtain ⟨settled, positive, limited⟩ := layered_ok_iff.mp loaded
    obtain ⟨timeout, memory⟩ := settled.bounded
    refine ⟨⟨Nat.one_le_iff_ne_zero.mpr positive, timeout⟩, ?_, rfl⟩
    intro limit held
    refine ⟨Nat.one_le_iff_ne_zero.mpr ?_, memory limit held⟩
    rintro rfl
    exact limited held

def zeroText : String := "\x7b\"note\": [1e999], \"scriptTimeoutMs\": 0\x7d"

def zeroFiles : FileTree := ⟨SortedMap.ofList [("config.json", .file zeroText)], []⟩

def repairing : Environment := fun name =>
  if name = timeoutVariable then some " +750\n"
  else if name = strictVariable then some "YeS"
  else if name = memoryVariable then some "\t"
  else none

/-- Without the variable the same file is refused. -/
theorem zero_timeout_is_repaired :
    (load FileTree.access repairing "config.json").run zeroFiles = (.ok ⟨750, true, none⟩, zeroFiles) ∧
    Settled repairing (.ok zeroText) ⟨750, true, none⟩ ∧
    (load FileTree.access (fun _ => none) "config.json").run zeroFiles =
      (.error (.invalid "scriptTimeoutMs" "must be greater than zero"), zeroFiles) := by
  have read : (FileTree.access.read "config.json").run zeroFiles = (.ok zeroText, zeroFiles) := rfl
  obtain ⟨result, loaded, accepted, -⟩ := layers_are_exact FileTree.access repairing "config.json" _ _ _ read
  obtain ⟨other, refused, -⟩ := layers_are_exact FileTree.access (fun _ => none) "config.json" _ _ _ read
  have known : ((load FileTree.access repairing "config.json").run zeroFiles).1 = .ok ⟨750, true, none⟩ := by
    decide +kernel
  have zero : ((load FileTree.access (fun _ => none) "config.json").run zeroFiles).1 =
      .error (.invalid "scriptTimeoutMs" "must be greater than zero") := by
    decide +kernel
  rw [loaded] at known
  rw [refused] at zero
  subst known zero
  exact ⟨loaded, ((accepted _).mp rfl).1, refused⟩

end Configuration
end ScriptedTask
