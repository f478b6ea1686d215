import Mathlib.Data.List.Induction
import Mathlib.Data.List.Perm.Basic
import ScriptedTask.Json.Printer
import ScriptedTask.Script.Stringify

/-! Texts as scripts have them. A text from outside comes through units unchanged, is quoted in a
script as it is outside, and a key that spells an index is the only key that does. -/

namespace ScriptedTask

open Text (Units)

namespace Text.Units

section Characters

variable {unit : UInt16} {c : Char} {rest : List UInt16}

theorem code_lt (c : Char) : c.toNat < 0x110000 := by
  rcases c.valid with valid | ⟨_, valid⟩
  · exact Nat.lt_of_lt_of_le valid (by decide)
  · exact valid

theorem ofChar_small (small : c.toNat < 0x10000) : ofChar c = [UInt16.ofNat c.toNat] := if_pos small

theorem toNat_ofNat_small {code : Nat} (small : code < 0x10000) : (UInt16.ofNat code).toNat = code :=
  UInt16.toNat_ofNat_of_lt small

theorem spell_plain (notHigh : isHighSurrogate unit = false) (notLow : isLowSurrogate unit = false) (rest : List UInt16) :
    spell (unit :: rest) = .inl (Char.ofNat unit.toNat) :: spell rest := by
  cases rest <;> simp [spell, notHigh, notLow]

theorem spell_pair {high low : UInt16} (isHigh : isHighSurrogate high = true) (isLow : isLowSurrogate low = true)
    (rest : List UInt16) : spell (high :: low :: rest) = .inl (pair high low) :: spell rest := by
  simp [spell, isHigh, isLow]

theorem spell_ofChar (c : Char) (rest : List UInt16) : spell (ofChar c ++ rest) = .inl c :: spell rest := by
  have bound := code_lt c
  by_cases small : c.toNat < 0x10000
  · have code := toNat_ofNat_small small
    have plain : isHighSurrogate (UInt16.ofNat c.toNat) = false ∧ isLowSurrogate (UInt16.ofNat c.toNat) = false := by
      have valid : c.toNat < 0xD800 ∨ 0xDFFF < c.toNat := c.valid.imp_right And.left
      simp only [isHighSurrogate, isLowSurrogate, code, Bool.and_eq_false_iff, decide_eq_false_iff_not]
      omega
    rw [ofChar_small small, List.singleton_append, spell_plain plain.1 plain.2, code, Char.ofNat_toNat]
  · have high : (UInt16.ofNat (0xD800 + (c.toNat - 0x10000) / 0x400)).toNat = 0xD800 + (c.toNat - 0x10000) / 0x400 :=
      toNat_ofNat_small (by omega)
    have low : (UInt16.ofNat (0xDC00 + (c.toNat - 0x10000) % 0x400)).toNat = 0xDC00 + (c.toNat - 0x10000) % 0x400 :=
      toNat_ofNat_small (by omega)
    have whole : 0x10000 + (c.toNat - 0x10000) / 0x400 * 0x400 + (c.toNat - 0x10000) % 0x400 = c.toNat := by omega
    rw [ofChar, if_neg small, List.cons_append, List.singleton_append, spell_pair, pair, high, low, Nat.add_sub_cancel_left,
      Nat.add_sub_cancel_left, whole, Char.ofNat_toNat]
    · simp only [isHighSurrogate, high, Bool.and_eq_true, decide_eq_true_eq]
      omega
    · simp only [isLowSurrogate, low, Bool.and_eq_true, decide_eq_true_eq]
      omega

/-- A character above the basic ones has no unit among them. -/
theorem ofChar_large (large : 128 ≤ c.toNat) : ∀ unit ∈ ofChar c, 128 ≤ unit.toNat := by
  intro unit inside
  rw [ofChar] at inside
  split at inside
  next below =>
    rw [List.mem_singleton.mp inside, toNat_ofNat_small below]
    exact large
  · simp only [List.mem_cons, List.not_mem_nil, or_false] at inside
    have bound := code_lt c
    rcases inside with rfl | rfl <;> rw [toNat_ofNat_small (by omega)] <;> omega

/-- A unit above the basic characters is none of them, and no control character. -/
theorem unlike_of_large (large : 128 ≤ unit.toNat) :
    (∀ other : UInt16, other.toNat < 128 → unit ≠ other) ∧ ¬unit < 32 := by
  constructor
  · rintro other small rfl
    omega
  · rw [UInt16.lt_iff_toNat_lt]
    simpa using Nat.le_trans (by decide) large

end Characters

theorem spell_encode (text : List Char) : spell (encode text) = text.map .inl := by
  induction text with
  | nil => rfl
  | cons c rest ih => rw [encode, List.flatMap_cons, spell_ofChar, List.map_cons, ← encode, ih]

/-- What was encoded is decoded. -/
theorem decode?_encode (text : List Char) : decode? (encode text) = some text := by
  rw [decode?, spell_encode, List.mapM_map]
  induction text with
  | nil => rfl
  | cons c rest ih => simp [ih]

theorem encode_append (first second : List Char) : encode (first ++ second) = encode first ++ encode second :=
  List.flatMap_append

theorem length_le_encode (text : List Char) : text.length ≤ (encode text).length := by
  induction text with
  | nil => exact Nat.zero_le _
  | cons c rest ih =>
    have some : 1 ≤ (ofChar c).length := by
      rw [ofChar]
      split <;> exact Nat.le_add_left 1 _
    rw [encode, List.flatMap_cons, List.length_append, List.length_cons, ← encode]
    omega

theorem encode_ascii {text : List Char} (small : ∀ c ∈ text, c.toNat < 128) :
    encode text = text.map fun c => UInt16.ofNat c.toNat := by
  induction text with
  | nil => rfl
  | cons c rest ih =>
    rw [List.forall_mem_cons] at small
    rw [encode, List.flatMap_cons, ← encode, ih small.2, ofChar_small (Nat.lt_trans small.1 (by decide))]
    rfl

theorem ofString_inj {first second : String} : ofString first = ofString second ↔ first = second := by
  refine ⟨fun same => ?_, congrArg ofString⟩
  have units : encode first.toList = encode second.toList := congrArg Array.toList same
  have texts := congrArg decode? units
  rw [decode?_encode, decode?_encode] at texts
  exact String.toList_inj.mp (Option.some.inj texts)

section Same

variable {left right : Units}

theorem agree_iff {count : Nat} :
    agree left right count = true ↔ ∀ index < count, left.getD index 0 = right.getD index 0 := by
  induction count with
  | zero => simp [agree]
  | succ count ih =>
    rw [agree, Bool.and_eq_true, beq_iff_eq, ih]
    constructor
    · rintro ⟨last, others⟩ index below
      rcases Nat.lt_succ_iff_lt_or_eq.mp below with before | rfl
      · exact others index before
      · exact last
    · exact fun all => ⟨all count (Nat.lt_succ_self _), fun index below => all index (Nat.lt_succ_of_lt below)⟩

theorem same_iff : left.same right = true ↔ left = right := by
  simp only [same, Bool.and_eq_true, beq_iff_eq, agree_iff]
  constructor
  · rintro ⟨sizes, agree⟩
    refine Array.ext sizes fun index inside other => ?_
    simpa [Array.getD, inside, other] using agree index inside
  · rintro rfl
    exact ⟨rfl, fun _ _ => rfl⟩

end Same

end Text.Units

namespace Json

/-- Outside, only basic characters are escaped. -/
theorem escape_large {c : Char} (large : 128 ≤ c.toNat) : escape c = [c] := by
  have differs : ∀ other : Char, other.toNat < 128 → c ≠ other := by
    rintro other less rfl
    omega
  have notLess : ¬c < ' ' := by
    intro less
    exact absurd (Nat.lt_trans (show c.toNat < ' '.toNat from less) (by decide)) (Nat.not_lt.mpr large)
  simp [escape, differs, notLess]

end Json

namespace Script

open Text.Units

namespace Eval

/-- The units of a character are escaped as the character is outside. -/
theorem escape_units (c : Char) : (ofChar c).flatMap escapeUnit = encode (Json.escape c) := by
  by_cases large : 128 ≤ c.toNat
  · have plain : ∀ unit ∈ ofChar c, escapeUnit unit = [unit] := by
      intro unit inside
      obtain ⟨differs, notLess⟩ := unlike_of_large (ofChar_large large unit inside)
      simp [escapeUnit, differs, notLess]
    rw [Json.escape_large large, encode, List.flatMap_singleton, List.flatMap_congr plain, List.flatMap_singleton']
  · have ascii : ∀ code < 128, (ofChar (Char.ofNat code)).flatMap escapeUnit = encode (Json.escape (Char.ofNat code)) := by
      decide +kernel
    have this := ascii c.toNat (Nat.lt_of_not_le large)
    rwa [Char.ofNat_toNat] at this

theorem quoteBody_inl (text : List Char) : quoteBody (text.map .inl) = encode (text.flatMap Json.escape) := by
  induction text with
  | nil => rfl
  | cons c rest ih => rw [List.map_cons, quoteBody, ih, escape_units, List.flatMap_cons, encode_append]

/-- A text is quoted as it is outside. -/
theorem quote_ofString (text : String) : (quote (ofString text)).toList = encode (Json.quote text.toList) := by
  have body : quoteBody (spell (ofString text).toList) = encode (text.toList.flatMap Json.escape) := by
    rw [ofString, spell_encode, quoteBody_inl]
  rw [quote, body, Json.quote, encode_append]
  rfl

end Eval

section Keys

/-- The number whose digits are given by their units. -/
def numberOf (units : List UInt16) : Nat := units.foldl (fun value unit => 10 * value + (unit.toNat - 48)) 0

theorem numberOf_append (units : List UInt16) (unit : UInt16) :
    numberOf (units ++ [unit]) = 10 * numberOf units + (unit.toNat - 48) := by
  rw [numberOf, List.foldl_append]
  rfl

/-- Digits without a leading zero are what their number is written with. -/
theorem digits_numberOf {units : List UInt16} (some : units ≠ []) (digits : ∀ unit ∈ units, 48 ≤ unit.toNat ∧ unit.toNat ≤ 57)
    (leading : units.head? = .some 48 → units.length = 1) :
    (Nat.toDigits 10 (numberOf units)).map (fun c => UInt16.ofNat c.toNat) = units := by
  have digit : ∀ value < 10, UInt16.ofNat (Nat.digitChar value).toNat = UInt16.ofNat (value + 48) := by decide
  induction units using List.reverseRecOn with
  | nil => exact absurd rfl some
  | append_singleton front unit ih =>
    simp only [List.forall_mem_append, List.forall_mem_singleton] at digits
    have small : unit.toNat - 48 < 10 := by omega
    have last : UInt16.ofNat (unit.toNat - 48 + 48) = unit := by
      rw [Nat.sub_add_cancel digits.2.1, UInt16.ofNat_toNat]
    rw [numberOf_append]
    cases front with
    | nil => rw [numberOf, List.foldl_nil, Nat.mul_zero, Nat.zero_add, Nat.toDigits_of_lt_base small, List.map_singleton,
        digit _ small, last, List.nil_append]
    | cons first more =>
      have other : first ≠ 48 := fun zero => absurd (leading (by simp [zero])) (by simp)
      have written := ih (List.cons_ne_nil _ _) digits.1 (by simp [other])
      have positive : 0 < numberOf (first :: more) := by
        rw [Nat.pos_iff_ne_zero]
        intro zero
        rw [zero] at written
        exact other (List.head_eq_of_cons_eq written).symm
      rw [← Nat.toDigits_append_toDigits (by decide) positive small, List.map_append, written,
        Nat.toDigits_of_lt_base small, List.map_singleton, digit _ small, last]

/-- No other key spells the same index. -/
theorem indexKey_of_indexOf? {key : Units} {index : Nat} (found : indexOf? key = some index) : indexKey index = key := by
  rw [indexOf?] at found
  split at found
  · cases found
  next sized =>
    split at found
    · cases found
    next leading =>
      split at found
      next digits =>
        simp only [Option.ite_none_right_eq_some, Option.some.injEq] at found
        have value : numberOf key.toList = index := by
          rw [numberOf, Array.foldl_toList]
          exact found.2
        rw [not_or, Array.isEmpty_iff] at sized
        have written : (Nat.toDigits 10 (numberOf key.toList)).map (fun c => UInt16.ofNat c.toNat) = key.toList := by
          refine digits_numberOf (by simpa using sized.1) ?_ ?_
          · intro unit inside
            have digit := Array.all_eq_true'.mp digits unit (Array.mem_def.mpr inside)
            simpa [UInt16.le_iff_toNat_le] using digit
          · intro zero
            rw [not_and, Nat.not_lt] at leading
            have first : key.getD 0 0 = 48 := by
              rw [← (Array.toArray_toList : key.toList.toArray = key)]
              cases units : key.toList <;> simp_all
            have atMost := leading first
            have atLeast : key.size ≠ 0 := by simpa using sized.1
            rw [Array.length_toList]
            omega
        rw [indexKey, Text.Units.ofAscii, Nat.toString_eq_repr, Nat.toList_repr, ← value, written]
      · cases found

/-- Keys in the order of listings are the same keys. -/
theorem orderKeys_perm (keys : List Units) : (orderKeys keys).Perm keys := by
  have indices : ((keys.filterMap indexOf?).map indexKey).Perm (keys.filter fun key => (indexOf? key).isSome) := by
    induction keys with
    | nil => exact .refl _
    | cons key rest ih =>
      cases found : indexOf? key with
      | none => simpa [found] using ih
      | some index => simpa [found, indexKey_of_indexOf? found] using ih
  have others : (fun key => !(indexOf? key).isSome) = fun key => (indexOf? key).isNone := by
    funext key
    cases indexOf? key <;> rfl
  have split := List.filter_append_perm (fun key => (indexOf? key).isSome) keys
  rw [others] at split
  exact (((List.mergeSort_perm _ _).map indexKey).trans indices |>.append_right _).trans split

end Keys

end Script
end ScriptedTask
