import Mathlib.Data.List.Forall2
import Mathlib.Data.List.TakeWhile
import ScriptedTask.Decimal.Reading
import ScriptedTask.Proofs.Outcomes
import ScriptedTask.Worker.Configuration

/-! The settings of the worker, one by one: where the value of each is found, and what is wrong with a text that
says no value. -/

namespace ScriptedTask

namespace Text

theorem forall_of_dropTrailing_eq_nil {drop : Char → Bool} {text : List Char} (none : dropTrailing drop text = []) :
    ∀ c ∈ text, drop c = true := by
  rw [dropTrailing, List.reverse_eq_nil_iff, List.dropWhile_eq_nil_iff] at none
  exact fun c member => none c (List.mem_reverse.mpr member)

theorem trim_eq_empty_iff {text : String} : trim text = "" ↔ isBlankText text = true := by
  rw [trim, String.ofList_eq_empty_iff, isBlankText, List.all_eq_true]
  constructor
  · intro none c member
    by_cases blank : isBlank c = true
    · exact blank
    · have kept := forall_of_dropTrailing_eq_nil none
      rw [← List.takeWhile_append_dropWhile (p := isBlank) (l := text.toList), List.mem_append] at member
      rcases member with lead | rest
      · exact List.mem_takeWhile_imp lead
      · exact kept c rest
  · intro blank
    have none : text.toList.dropWhile isBlank = [] := List.dropWhile_eq_nil_iff.mpr blank
    rw [trimBlanks, none]
    rfl

end Text

namespace Configuration

section Counts

/-- The text after its plus sign, if it has one. -/
def unsigned (text : String) : List Char :=
  match text.toList with
  | '+' :: digits => digits
  | digits => digits

/-- The text is a number of 64 bits in decimal digits. -/
structure Counts (text : String) (value : Nat) : Prop where
  filled : unsigned text ≠ []
  digits : ∀ c ∈ unsigned text, c.isDigit = true
  whole : Decimal.digitsValue (unsigned text) = value
  bounded : value < 0x10000000000000000

/-- A text that is no such number has leading digits that are too large a number, or else something that is no digit. -/
def countFault (text : String) : String :=
  if 0x10000000000000000 ≤ Decimal.digitsValue ((unsigned text).takeWhile Char.isDigit) then "number too large to fit in target type"
  else "invalid digit found in string"

def digitsFrom (value : Nat) (digits : List Char) : Nat :=
  digits.foldl (fun value c => 10 * value + Decimal.digitValue c) value

theorem le_digitsFrom (value : Nat) (digits : List Char) : value ≤ digitsFrom value digits := by
  induction digits generalizing value with
  | nil => exact Nat.le_refl value
  | cons c rest ih =>
    have step := ih (10 * value + Decimal.digitValue c)
    rw [digitsFrom, List.foldl_cons]
    unfold digitsFrom at step
    omega

/-- The value never falls, so that a number is too large as soon as some of its leading digits are. -/
theorem countDigits_eq {value : Nat} (fits : value < 0x10000000000000000) (digits : List Char) :
    countDigits value digits =
      if 0x10000000000000000 ≤ digitsFrom value (digits.takeWhile Char.isDigit) then .error "number too large to fit in target type"
      else if digits.all Char.isDigit then .ok (digitsFrom value digits)
      else .error "invalid digit found in string" := by
  have within : ¬0x10000000000000000 ≤ digitsFrom value [] := Nat.not_le.mpr fits
  induction digits generalizing value with
  | nil =>
    rw [List.takeWhile_nil, if_neg within]
    rfl
  | cons c rest ih =>
    rw [countDigits]
    by_cases digit : c.isDigit = true
    · rw [if_pos digit, List.takeWhile_cons_of_pos digit]
      have step (tail : List Char) : digitsFrom value (c :: tail) = digitsFrom (10 * value + (c.toNat - 48)) tail := rfl
      simp only [step, List.all_cons, digit, Bool.true_and]
      split
      next next_fits => exact ih next_fits (Nat.not_le.mpr next_fits)
      next beyond =>
        have grown := le_digitsFrom (10 * value + (c.toNat - 48)) (rest.takeWhile Char.isDigit)
        rw [if_pos (by omega)]
    · have ended : ¬(c :: rest).all Char.isDigit = true := by simp [digit]
      rw [if_neg digit, List.takeWhile_cons_of_neg digit, if_neg within, if_neg ended]

variable {text : String}

theorem readCount_eq (filled : text ≠ "") :
    readCount text = if unsigned text = [] then .error "invalid digit found in string" else countDigits 0 (unsigned text) := by
  unfold readCount unsigned
  cases characters : text.toList with
  | nil => exact absurd (String.toList_eq_nil_iff.mp characters) filled
  | cons c rest =>
    by_cases signed : c = '+'
    · subst signed
      cases rest <;> rfl
    · simp [signed]

theorem readCount_ok_iff (filled : text ≠ "") {value : Nat} : readCount text = .ok value ↔ Counts text value := by
  rw [readCount_eq filled, countDigits_eq (by decide)]
  constructor
  · intro read
    split at read
    · cases read
    next some_digit =>
      split at read
      · cases read
      next fits =>
        split at read
        next digits =>
          rw [List.all_eq_true] at digits
          rw [List.takeWhile_eq_self_iff.mpr digits] at fits
          cases read
          exact ⟨some_digit, digits, rfl, Nat.not_le.mp fits⟩
        · cases read
  · intro ⟨some_digit, digits, whole, bounded⟩
    have total : digitsFrom 0 (unsigned text) = value := whole
    rw [if_neg some_digit, List.takeWhile_eq_self_iff.mpr digits, total, if_neg (Nat.not_le.mpr bounded),
      if_pos (List.all_eq_true.mpr digits)]

theorem readCount_error (filled : text ≠ "") {reason : String} (failed : readCount text = .error reason) :
    reason = countFault text := by
  rw [readCount_eq filled, countDigits_eq (by decide)] at failed
  unfold countFault Decimal.digitsValue
  split at failed
  next none =>
    cases failed
    rw [none]
    rfl
  · split at failed
    next beyond =>
      cases failed
      exact (if_pos beyond).symm
    next fits =>
      split at failed
      · cases failed
      · cases failed
        exact (if_neg fits).symm

end Counts

section Flags

def flagWords : Bool → List String
  | true => ["1", "t", "true", "yes"]
  | false => ["0", "f", "false", "no"]

/-- The text is the word, in small letters or in capitals. -/
def InAnyCase (text word : String) : Prop :=
  List.Forall₂ (fun c small => c = small ∨ c = small.toUpper) text.toList word.toList

def IsFlag (text : String) (value : Bool) : Prop := ∃ word ∈ flagWords value, InAnyCase text word

theorem toNat_toLower (c : Char) :
    c.toLower.toNat = if 65 ≤ c.toNat ∧ c.toNat ≤ 90 then c.toNat + 32 else c.toNat := by
  have bounds : ('A'.val ≤ c.val ∧ c.val ≤ 'Z'.val) ↔ 65 ≤ c.toNat ∧ c.toNat ≤ 90 := Iff.rfl
  unfold Char.toLower
  split
  next capital =>
    have small : c.val.toNat ≤ 90 := (bounds.mp capital).2
    have shift : ('a'.val - 'A'.val).toNat = 32 := by decide
    have sum := UInt32.toNat_add c.val ('a'.val - 'A'.val)
    rw [if_pos (bounds.mp capital)]
    change (c.val + ('a'.val - 'A'.val)).toNat = c.val.toNat + 32
    omega
  next other => rw [if_neg fun capital => other (bounds.mpr capital)]

theorem toNat_toUpper (c : Char) :
    c.toUpper.toNat = if 97 ≤ c.toNat ∧ c.toNat ≤ 122 then c.toNat - 32 else c.toNat := by
  have bounds : ('a'.val ≤ c.val ∧ c.val ≤ 'z'.val) ↔ 97 ≤ c.toNat ∧ c.toNat ≤ 122 := Iff.rfl
  unfold Char.toUpper
  split
  next small =>
    have between : 97 ≤ c.val.toNat ∧ c.val.toNat ≤ 122 := bounds.mp small
    have shift : ('A'.val - 'a'.val).toNat = 0x100000000 - 32 := by decide
    have sum := UInt32.toNat_add c.val ('A'.val - 'a'.val)
    rw [if_pos (bounds.mp small)]
    change (c.val + ('A'.val - 'a'.val)).toNat = c.val.toNat - 32
    omega
  next other => rw [if_neg fun small => other (bounds.mpr small)]

theorem toLower_eq_iff {c small : Char} (fixed : small.toLower = small) :
    c.toLower = small ↔ c = small ∨ c = small.toUpper := by
  have same := congrArg Char.toNat fixed
  rw [toNat_toLower] at same
  simp only [← Char.toNat_inj, toNat_toLower, toNat_toUpper]
  split at same <;> split <;> split <;> omega

theorem map_toLower_eq_iff {text word : List Char} (small : word.map Char.toLower = word) :
    text.map Char.toLower = word ↔ List.Forall₂ (fun c small => c = small ∨ c = small.toUpper) text word := by
  induction word generalizing text with
  | nil => rw [List.map_eq_nil_iff, List.forall₂_nil_right_iff]
  | cons letter rest ih =>
    obtain ⟨fixed, others⟩ := List.cons.inj small
    cases text with
    | nil => exact iff_of_false nofun nofun
    | cons c more => rw [List.map_cons, List.cons.injEq, toLower_eq_iff fixed, ih others, List.forall₂_cons]

theorem lowerWord_eq_iff {text word : String} (small : lowerWord word = word) :
    lowerWord text = word ↔ InAnyCase text word := by
  rw [lowerWord, ← String.toList_inj, String.toList_ofList] at small ⊢
  exact map_toLower_eq_iff small

theorem mem_flagWords_iff {text : String} (value : Bool) : lowerWord text ∈ flagWords value ↔ IsFlag text value := by
  have small : ∀ word ∈ flagWords value, lowerWord word = word := by
    cases value <;> decide
  constructor
  · exact fun member => ⟨_, member, (lowerWord_eq_iff (small _ member)).mp rfl⟩
  · rintro ⟨word, member, same⟩
    exact (lowerWord_eq_iff (small word member)).mpr same ▸ member

theorem readFlag_eq (text : String) :
    readFlag text = if lowerWord text ∈ flagWords true then .ok true
      else if lowerWord text ∈ flagWords false then .ok false else .error "expected a boolean" := by
  simp only [readFlag, List.contains_iff_mem]
  rfl

theorem readFlag_ok_iff {text : String} {value : Bool} : readFlag text = .ok value ↔ IsFlag text value := by
  have apart : ∀ word ∈ flagWords true, word ∉ flagWords false := by decide
  rw [readFlag_eq, ← mem_flagWords_iff]
  cases value with
  | true =>
    constructor
    · intro read
      split at read
      · assumption
      · split at read <;> cases read
    · intro yes
      rw [if_pos yes]
  | false =>
    constructor
    · intro read
      split at read
      · cases read
      · split at read
        · assumption
        · cases read
    · intro no
      rw [if_neg fun yes => apart _ yes no, if_pos no]

theorem readFlag_error {text reason : String} (failed : readFlag text = .error reason) : reason = "expected a boolean" := by
  rw [readFlag_eq] at failed
  split at failed
  · cases failed
  · split at failed
    · cases failed
    · cases failed
      rfl

end Flags

end Configuration

/-- A field of the configuration with the variable that overrides it: which values it may have in a file, which values
a text says, and what is wrong with a text that says none. -/
structure Setting (α : Type) where
  field : String
  variableName : String
  default : α
  Written : Json → α → Prop
  Said : String → α → Prop
  fault : String → String

namespace Setting

open ScriptedTask.Configuration Wire

def timeout : Setting Nat where
  field := "scriptTimeoutMs"
  variableName := "TASKWRAP_SCRIPT_TIMEOUT_MS"
  default := 2000
  Written json value := ∃ inRange, json = .integer value inRange
  Said := Counts
  fault := countFault

def strict : Setting Bool where
  field := "strictDeref"
  variableName := "TASKWRAP_STRICT_DEREF"
  default := false
  Written json value := json = .bool value
  Said := IsFlag
  fault _ := "expected a boolean"

/-- A file may say that there is no limit, a variable may not. -/
def memory : Setting (Option Nat) where
  field := "scriptMemoryLimitBytes"
  variableName := "TASKWRAP_SCRIPT_MEMORY_LIMIT_BYTES"
  default := none
  Written json limit := json = .null ∧ limit = none ∨ ∃ value, limit = some value ∧ ∃ inRange, json = .integer value inRange
  Said text limit := ∃ value, limit = some value ∧ Counts text value
  fault := countFault

section Sources

variable {α : Type} (setting : Setting α) (environment : Environment)

/-- The variable is not set, or is set to blanks. -/
def Silent : Prop := ∀ text, environment setting.variableName = some text → Text.trim text = ""

def Overridden (value : α) : Prop :=
  ∃ text, environment setting.variableName = some text ∧ Text.trim text ≠ "" ∧ setting.Said (Text.trim text) value

/-- The variable is set to a text that says no value. -/
def Malformed (error : ConfigurationError) : Prop :=
  ∃ text, environment setting.variableName = some text ∧ Text.trim text ≠ "" ∧
    (∀ value, ¬setting.Said (Text.trim text) value) ∧
    error = .setting setting.variableName (Text.trim text) (setting.fault (Text.trim text))

/-- The value beneath the environment, by the fields that a file gives. -/
inductive Based (fields : Fields Json.Part) : α → Prop
  | written {part : Json.Part} {json : Json} {value : α} (found : fields.lookup setting.field = some part)
      (held : part.value? = some json) (valid : setting.Written json value) : Based fields value
  | absent (missing : fields.lookup setting.field = none) : Based fields setting.default

/-- The value of the variable, or else the one beneath. -/
def Over (below value : α) : Prop := setting.Overridden environment value ∨ setting.Silent environment ∧ value = below

end Sources

section Variables

variable {α β : Type} {setting : Setting β} {environment : Environment} {read : String → Except String α} {text : String}

theorem setting?_of_silent (silent : setting.Silent environment) :
    setting? environment setting.variableName read = .ok none := by
  have none : (environment setting.variableName).filter (!Text.isBlankText ·) = none := by
    rw [Option.filter_eq_none_iff]
    intro text held
    simp [Text.trim_eq_empty_iff.mp (silent text held)]
  rw [setting?, none]

theorem setting?_of_set (held : environment setting.variableName = some text) (filled : Text.trim text ≠ "") :
    setting? environment setting.variableName read =
      ((read (Text.trim text)).map some).mapError (.setting setting.variableName (Text.trim text)) := by
  rw [ne_eq, Text.trim_eq_empty_iff, Bool.not_eq_true] at filled
  rw [setting?, held, Option.filter_some_pos (by simp [filled])]
  dsimp only
  cases read (Text.trim text) <;> rfl

theorem silent_or_set (setting : Setting β) (environment : Environment) :
    setting.Silent environment ∨ ∃ text, environment setting.variableName = some text ∧ Text.trim text ≠ "" := by
  by_cases silent : setting.Silent environment
  · exact .inl silent
  · exact .inr (by simpa [Silent] using silent)

end Variables

/-- Only the field of the setting matters. -/
theorem Based.of_lookup_eq {α : Type} {setting : Setting α} {fields others : Fields Json.Part} {value : α}
    (based : setting.Based fields value) (same : others.lookup setting.field = fields.lookup setting.field) :
    setting.Based others value := by
  cases based with
  | written found held valid => exact .written (same.trans found) held valid
  | absent missing => exact .absent (same.trans missing)

theorem based_nil {α : Type} {setting : Setting α} {value : α} : setting.Based [] value ↔ value = setting.default := by
  constructor
  · rintro (⟨⟨⟩⟩ | -)
    rfl
  · rintro rfl
    exact .absent rfl

section Bounds

variable {α : Type} {setting : Setting α} (holds : α → Prop)

theorem Based.satisfies {fields : Fields Json.Part} {value : α} (based : setting.Based fields value)
    (default : holds setting.default) (written : ∀ {json value}, setting.Written json value → holds value) : holds value := by
  cases based with
  | written found held valid => exact written valid
  | absent missing => exact default

theorem Over.satisfies {environment : Environment} {below value : α} (laid : setting.Over environment below value)
    (beneath : holds below) (said : ∀ {text value}, setting.Said text value → holds value) : holds value := by
  rcases laid with ⟨text, -, -, spoken⟩ | ⟨-, rfl⟩
  · exact said spoken
  · exact beneath

end Bounds

/-- How the values of a setting are read: out of texts, whose values are lifted to those of the setting, and out of
the parts of a file. -/
structure ReadBy {α β : Type} (setting : Setting β) (read : String → Except String α) (lift : α → β)
    (decode? : Json.Part → Option β) : Prop where
  said : ∀ {text value}, text ≠ "" → ((∃ found, read text = .ok found ∧ lift found = value) ↔ setting.Said text value)
  fault : ∀ {text reason}, text ≠ "" → read text = .error reason → reason = setting.fault text
  written : ∀ {part value}, decode? part = some value ↔ ∃ json, part.value? = some json ∧ setting.Written json value

namespace ReadBy

variable {α β : Type} {setting : Setting β} {read : String → Except String α} {lift : α → β}
  {decode? : Json.Part → Option β} {environment : Environment}

theorem setting?_ok_iff (reads : setting.ReadBy read lift decode?) {below value : β} :
    (∃ said, setting? environment setting.variableName read = .ok said ∧ said.elim below lift = value) ↔
      setting.Over environment below value := by
  unfold Over
  rcases silent_or_set setting environment with silent | ⟨text, held, filled⟩
  · have free : ¬setting.Overridden environment value := fun ⟨text, held, filled, _⟩ => filled (silent text held)
    simp [setting?_of_silent silent, silent, free, eq_comm]
  · have loud : ¬setting.Silent environment := fun silent => filled (silent text held)
    have overridden : setting.Overridden environment value ↔ setting.Said (Text.trim text) value := by
      simp [Overridden, held, filled]
    rw [setting?_of_set held filled, overridden, ← reads.said filled]
    cases read (Text.trim text) <;> simp [Except.map, Except.mapError, loud]

theorem setting?_error_iff (reads : setting.ReadBy read lift decode?) {error : ConfigurationError} :
    setting? environment setting.variableName read = .error error ↔ setting.Malformed environment error := by
  rcases silent_or_set setting environment with silent | ⟨text, held, filled⟩
  · rw [setting?_of_silent silent]
    exact iff_of_false nofun fun ⟨text, held, filled, _⟩ => filled (silent text held)
  · have malformed : setting.Malformed environment error ↔ (∀ value, ¬setting.Said (Text.trim text) value) ∧
        error = .setting setting.variableName (Text.trim text) (setting.fault (Text.trim text)) := by
      simp [Malformed, held, filled]
    rw [setting?_of_set held filled, malformed]
    simp only [← reads.said filled]
    cases result : read (Text.trim text) with
    | ok found => simp [Except.map, Except.mapError]
    | error reason => simp [Except.map, Except.mapError, ← reads.fault filled result, eq_comm]

theorem orElse?_iff (reads : setting.ReadBy read lift decode?) {fields : Fields Json.Part} {value : β} :
    fields.orElse? setting.field setting.default decode? = some value ↔ setting.Based fields value := by
  unfold Fields.orElse?
  constructor
  · intro decoded
    split at decoded
    next part found =>
      obtain ⟨json, held, valid⟩ := reads.written.mp decoded
      exact .written found held valid
    next missing =>
      cases decoded
      exact .absent missing
  · rintro (⟨found, held, valid⟩ | missing)
    · rw [found]
      exact reads.written.mpr ⟨_, held, valid⟩
    · rw [missing]

end ReadBy

section Readers

variable {part : Json.Part} {value : Nat}

theorem count?_iff : count? jsonFormat part = some value ↔
    ∃ json, part.value? = some json ∧ timeout.Written json value := by
  have known : jsonFormat.value? part = part.value? := rfl
  rw [count?, known]
  constructor
  · intro found
    split at found
    next whole inRange held =>
      split at found
      · cases found
      next positive =>
        cases found
        have same : ((whole.toNat : Nat) : Int) = whole := by omega
        exact ⟨_, held, by rwa [same], by simp only [same]⟩
    · cases found
  · rintro ⟨_, held, inRange, rfl⟩
    rw [held]
    simp

theorem timeout_readBy : timeout.ReadBy readCount id (count? jsonFormat) where
  said filled := by simp [readCount_ok_iff filled, timeout]
  fault filled := readCount_error filled
  written := count?_iff

theorem strict_readBy : strict.ReadBy readFlag id (flag? jsonFormat) where
  said _ := by simp [readFlag_ok_iff, strict]
  fault _ := readFlag_error
  written {part value} := by
    have known : jsonFormat.value? part = part.value? := rfl
    rw [flag?, known]
    constructor
    · intro found
      split at found
      next held =>
        cases found
        exact ⟨_, held, rfl⟩
      · cases found
    · rintro ⟨_, held, rfl⟩
      rw [held]

theorem memory_readBy : memory.ReadBy readCount some (jsonFormat.optional? (count? jsonFormat)) where
  said filled := by simp [readCount_ok_iff filled, memory, and_comm, eq_comm]
  fault filled := readCount_error filled
  written {part limit} := by
    have known : jsonFormat.isNull part = true ↔ part.value? = some .null := by
      dsimp only [jsonFormat]
      split
      next empty => exact iff_of_true rfl empty
      next other => exact iff_of_false Bool.false_ne_true other
    unfold Format.optional?
    split
    next empty =>
      simp [known.mp empty, memory, eq_comm]
    next filled =>
      rw [known] at filled
      rw [Option.map_eq_some_iff]
      simp only [count?_iff]
      constructor
      · rintro ⟨value, ⟨json, held, written⟩, rfl⟩
        exact ⟨json, held, .inr ⟨value, rfl, written⟩⟩
      · rintro ⟨json, held, ⟨rfl, -⟩ | ⟨value, rfl, written⟩⟩
        · exact absurd held filled
        · exact ⟨value, ⟨json, held, written⟩, rfl⟩

end Readers

end Setting
end ScriptedTask
