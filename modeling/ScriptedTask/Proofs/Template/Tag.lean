import ScriptedTask.Template.Action

/-! How actions are written. A tag is what may stand between the braces of an action, with all its
blanks and signs. Reading accepts the tags and nothing else, and no two tags are written alike. -/

namespace ScriptedTask

/-- A letter or an underscore, then letters, decimal digits and underscores. -/
def IsIdentifier (name : List Char) : Prop :=
  ∃ first rest, name = first :: rest ∧ (Text.isLetter first = true ∨ first = '_') ∧
    ∀ c ∈ rest, Text.isLetter c = true ∨ Text.isDecimalDigit c = true ∨ c = '_'

theorem isName_iff {name : List Char} : isName name = true ↔ IsIdentifier name := by
  cases name with
  | nil => exact iff_of_false Bool.false_ne_true fun ⟨_, _, impossible, _⟩ => nomatch impossible
  | cons first rest =>
    rw [isName, Bool.and_eq_true, List.all_eq_true]
    simp only [isNameStart, isNameRest, Bool.or_eq_true, beq_iff_eq, or_assoc]
    constructor
    · exact fun both => ⟨first, rest, rfl, both⟩
    · rintro ⟨_, _, ⟨⟩, both⟩
      exact both

instance (name : List Char) : Decidable (IsIdentifier name) := decidable_of_iff (isName name = true) isName_iff

theorem IsIdentifier.forall_isNameRest {name : List Char} (identifier : IsIdentifier name) :
    ∀ c ∈ name, isNameRest c = true := by
  obtain ⟨first, rest, rfl, begins, continues⟩ := identifier
  intro c member
  rcases List.mem_cons.mp member with rfl | later
  · rcases begins with letter | rfl
    · simp [isNameRest, letter]
    · decide
  · simpa [isNameRest, or_assoc] using continues c later

namespace Text

def blankCodes : List Nat :=
  [0x9, 0xA, 0xB, 0xC, 0xD, 0x20, 0x85, 0xA0, 0x1680, 0x2000, 0x2001, 0x2002, 0x2003, 0x2004, 0x2005, 0x2006,
    0x2007, 0x2008, 0x2009, 0x200A, 0x2028, 0x2029, 0x202F, 0x205F, 0x3000]

theorem toNat_mem_blankCodes {c : Char} (blank : isBlank c = true) : c.toNat ∈ blankCodes := by
  simp only [isBlank, Bool.or_eq_true, Bool.and_eq_true, decide_eq_true_eq, beq_iff_eq] at blank
  simp only [blankCodes, List.mem_cons, List.not_mem_nil, or_false]
  omega

end Text

/-- No blank of any script may stand in a name. -/
theorem isNameRest_of_isBlank {c : Char} (blank : Text.isBlank c = true) : isNameRest c = false := by
  have none : ∀ code ∈ Text.blankCodes, isNameRest (Char.ofNat code) = false := by
    simp only [isNameRest, Text.isLetter, Text.isDecimalDigit, Text.within, ← Array.any_toList]
    decide +kernel
  rw [← Char.ofNat_toNat c]
  exact none c.toNat (Text.toNat_mem_blankCodes blank)

/-- Blanks, a point, a name and blanks. A sign at an end stands directly beside a plain blank. -/
@[ext] structure Tag where
  trimsBefore : Bool
  lead : List Char
  name : List Char
  trail : List Char
  trimsAfter : Bool
  leadBlank : ∀ c ∈ lead, Text.isBlank c = true
  identifier : IsIdentifier name
  trailBlank : ∀ c ∈ trail, Text.isBlank c = true
  leadPlain : trimsBefore = true → ∃ c ∈ lead.head?, Text.isPlainBlank c = true
  trailPlain : trimsAfter = true → ∃ c ∈ trail.getLast?, Text.isPlainBlank c = true

def sign (trims : Bool) : List Char := if trims then ['-'] else []

namespace Tag

/-- A tag without its signs. -/
def body (tag : Tag) : List Char := tag.lead ++ '.' :: (tag.name ++ tag.trail)

def inside (tag : Tag) : List Char := sign tag.trimsBefore ++ (tag.body ++ sign tag.trimsAfter)

def action (tag : Tag) : Action := ⟨tag.name, tag.trimsBefore, tag.trimsAfter⟩

end Tag

namespace Action

/-! Signs -/

theorem takeMarker_sign {trims : Bool} {text : List Char} (unsigned : text.head? ≠ some '-')
    (plain : trims = true → ∃ c ∈ text.head?, Text.isPlainBlank c = true) :
    takeMarker (sign trims ++ text) = (trims, text) := by
  cases trims with
  | true =>
    obtain ⟨c, first, blank⟩ := plain rfl
    cases text with
    | nil => cases first
    | cons other rest =>
      cases first
      simp [sign, takeMarker, blank]
  | false =>
    cases text with
    | nil => rfl
    | cons other rest =>
      have differ : other ≠ '-' := fun same => unsigned (congrArg some same)
      unfold takeMarker
      split
      next c rest same => exact absurd (List.cons.inj same).1 differ
      next => rfl

theorem takeMarker_cases (text : List Char) :
    ∃ trims rest, takeMarker text = (trims, rest) ∧ text = sign trims ++ rest ∧
      (trims = true → ∃ c ∈ rest.head?, Text.isPlainBlank c = true) := by
  unfold takeMarker
  split
  next c rest =>
    split
    next blank => exact ⟨true, c :: rest, rfl, rfl, fun _ => ⟨c, rfl, blank⟩⟩
    next => exact ⟨false, _, rfl, rfl, nofun⟩
  next => exact ⟨false, _, rfl, rfl, nofun⟩

/-! Names between blanks -/

theorem lookedUp?_eq_some_iff {body name : List Char} :
    lookedUp? body = some name ↔ ∃ lead trail, body = lead ++ '.' :: (name ++ trail) ∧
      (∀ c ∈ lead, Text.isBlank c = true) ∧ IsIdentifier name ∧ ∀ c ∈ trail, Text.isBlank c = true := by
  constructor
  · intro found
    unfold lookedUp? at found
    split at found
    next rest pointed =>
      obtain ⟨both, same⟩ := Option.ite_none_right_eq_some.mp found
      cases same
      rw [Bool.and_eq_true, isName_iff, List.all_eq_true] at both
      refine ⟨body.takeWhile Text.isBlank, rest.dropWhile isNameRest, ?_, ?_, both.1, both.2⟩
      · rw [List.takeWhile_append_dropWhile, ← pointed, List.takeWhile_append_dropWhile]
      · exact List.all_eq_true.mp List.all_takeWhile
    next => cases found
  · rintro ⟨lead, trail, rfl, leadBlank, identifier, trailBlank⟩
    have pointed : (lead ++ '.' :: (name ++ trail)).dropWhile Text.isBlank = '.' :: (name ++ trail) := by
      rw [List.dropWhile_append_of_pos leadBlank]
      rfl
    have named : (name ++ trail).takeWhile isNameRest = name ∧ (name ++ trail).dropWhile isNameRest = trail := by
      rw [List.takeWhile_append_of_pos identifier.forall_isNameRest,
        List.dropWhile_append_of_pos identifier.forall_isNameRest]
      cases trail with
      | nil => simp
      | cons c rest =>
        have ends := isNameRest_of_isBlank (trailBlank c List.mem_cons_self)
        simp [ends]
    simp only [lookedUp?, pointed, named.1, named.2]
    rw [if_pos]
    rw [Bool.and_eq_true, isName_iff, List.all_eq_true]
    exact ⟨identifier, trailBlank⟩

end Action

/-! Blanks, point, name and blanks begin with a blank or the point, and end with a blank or a name. -/

section Ends

variable {lead name trail : List Char} {c : Char}

theorem mem_head?_pointed {rest : List Char} (first : c ∈ (lead ++ '.' :: rest).head?) : c ∈ lead.head? ∨ c = '.' := by
  cases lead with
  | nil => exact .inr (Option.some.inj first).symm
  | cons other others => exact .inl first

theorem mem_getLast?_named (identifier : IsIdentifier name) (last : c ∈ (lead ++ '.' :: (name ++ trail)).getLast?) :
    c ∈ trail.getLast? ∨ isNameRest c = true := by
  have split : lead ++ '.' :: (name ++ trail) = lead ++ ['.'] ++ name ++ trail := by simp
  rw [split, List.getLast?_append, List.getLast?_append] at last
  cases ending : trail.getLast? with
  | some d =>
    rw [ending] at last
    exact .inl last
  | none =>
    obtain ⟨first, rest, same, -⟩ := id identifier
    rw [ending, same, List.getLast?_cons] at last
    have member : c ∈ name := by
      rw [same]
      exact List.mem_of_getLast? (List.getLast?_cons.trans last)
    exact .inr (identifier.forall_isNameRest c member)

end Ends

theorem ne_minus_of_isBlank {c : Char} (blank : Text.isBlank c = true) : c ≠ '-' := by
  rintro rfl
  exact absurd blank (by decide)

theorem reverse_sign (trims : Bool) : (sign trims).reverse = sign trims := by cases trims <;> rfl

namespace Tag

variable (tag : Tag)

theorem head?_signed : (tag.body ++ sign tag.trimsAfter).head? = tag.body.head? := by
  rw [List.head?_append, body]
  cases tag.lead <;> rfl

theorem takeMarker_inside : Action.takeMarker tag.inside = (tag.trimsBefore, tag.body ++ sign tag.trimsAfter) := by
  apply Action.takeMarker_sign
  · rw [head?_signed]
    intro first
    rcases mem_head?_pointed first with blank | point
    · exact ne_minus_of_isBlank (tag.leadBlank _ (List.mem_of_head? blank)) rfl
    · exact absurd point (by decide)
  · intro trims
    obtain ⟨c, first, plain⟩ := tag.leadPlain trims
    refine ⟨c, ?_, plain⟩
    rw [head?_signed, body, List.head?_append, first]
    rfl

theorem takeMarker_end :
    Action.takeMarker (tag.body ++ sign tag.trimsAfter).reverse = (tag.trimsAfter, tag.body.reverse) := by
  rw [List.reverse_append, reverse_sign]
  apply Action.takeMarker_sign
  · rw [List.head?_reverse]
    intro last
    rcases mem_getLast?_named tag.identifier last with blank | named
    · exact ne_minus_of_isBlank (tag.trailBlank _ (List.mem_of_getLast? blank)) rfl
    · exact absurd named (by decide)
  · intro trims
    obtain ⟨c, last, plain⟩ := tag.trailPlain trims
    refine ⟨c, ?_, plain⟩
    rw [List.head?_reverse, body, List.getLast?_append, List.getLast?_cons, List.getLast?_append, last]
    rfl

/-- What is written as a tag is read as its action. -/
theorem read?_inside : Action.read? tag.inside = some tag.action := by
  have found : Action.lookedUp? tag.body = some tag.name :=
    Action.lookedUp?_eq_some_iff.mpr ⟨tag.lead, tag.trail, rfl, tag.leadBlank, tag.identifier, tag.trailBlank⟩
  simp only [Action.read?, takeMarker_inside, takeMarker_end, List.reverse_reverse, found, Option.map_some, action]

/-- Whatever is read as an action is written as a tag. -/
theorem exists_of_read? {inside : List Char} {action : Action} (read : Action.read? inside = some action) :
    ∃ tag : Tag, tag.inside = inside ∧ tag.action = action := by
  obtain ⟨trimsBefore, signed, taken, rfl, leadPlain⟩ := Action.takeMarker_cases inside
  obtain ⟨trimsAfter, reversed, takenToo, ends, trailPlain⟩ := Action.takeMarker_cases signed.reverse
  simp only [Action.read?, taken, takenToo, Option.map_eq_some_iff] at read
  obtain ⟨name, found, rfl⟩ := read
  obtain ⟨lead, trail, body, leadBlank, identifier, trailBlank⟩ := Action.lookedUp?_eq_some_iff.mp found
  obtain rfl : signed = lead ++ '.' :: (name ++ trail) ++ sign trimsAfter := by
    rw [← body, ← List.reverse_reverse signed, ends, List.reverse_append, reverse_sign]
  refine ⟨⟨trimsBefore, lead, name, trail, trimsAfter, leadBlank, identifier, trailBlank, ?_, ?_⟩, rfl, rfl⟩
  · intro trims
    obtain ⟨c, first, plain⟩ := leadPlain trims
    rw [List.append_assoc, List.cons_append] at first
    rcases mem_head?_pointed first with blank | rfl
    · exact ⟨c, blank, plain⟩
    · exact absurd plain (by decide)
  · intro trims
    obtain ⟨c, last, plain⟩ := trailPlain trims
    rw [← List.getLast?_reverse, body] at last
    rcases mem_getLast?_named identifier last with blank | named
    · exact ⟨c, blank, plain⟩
    · rw [isNameRest_of_isBlank (Text.isBlank_of_isPlainBlank plain)] at named
      cases named

theorem read?_eq_none_iff {inside : List Char} :
    Action.read? inside = none ↔ ∀ tag : Tag, tag.inside ≠ inside := by
  rw [Option.eq_none_iff_forall_ne_some]
  constructor
  · intro unread tag same
    exact unread tag.action (same ▸ tag.read?_inside)
  · intro untagged action read
    obtain ⟨tag, same, -⟩ := exists_of_read? read
    exact untagged tag same

theorem takeWhile_body : tag.body.takeWhile Text.isBlank = tag.lead := by
  rw [body, List.takeWhile_append_of_pos tag.leadBlank, List.takeWhile_cons_of_neg (by decide), List.append_nil]

/-- No two tags are written alike. -/
theorem inside_injective : Function.Injective inside := by
  intro first second same
  have action : first.action = second.action :=
    Option.some.inj (by rw [← read?_inside, ← read?_inside, same])
  have name : first.name = second.name := congrArg Action.name action
  have before : first.trimsBefore = second.trimsBefore := congrArg Action.trimsBefore action
  have after : first.trimsAfter = second.trimsAfter := congrArg Action.trimsAfter action
  have bodies : first.body = second.body := by
    rw [inside, inside, before, after, List.append_cancel_left_eq, List.append_cancel_right_eq] at same
    exact same
  have lead : first.lead = second.lead := by rw [← takeWhile_body, ← takeWhile_body, bodies]
  have trail : first.trail = second.trail := by
    rw [body, body, lead, name, List.append_cancel_left_eq, List.cons_inj_right, List.append_cancel_left_eq] at bodies
    exact bodies
  exact Tag.ext before lead name trail after

/-- What stands in a tag opens and closes no action. -/
theorem not_mem_inside {c : Char} (brace : c = '{' ∨ c = '}') : c ∉ tag.inside := by
  have unblank : Text.isBlank c = false := by rcases brace with rfl | rfl <;> decide
  have unnamed : isNameRest c = false := by rcases brace with rfl | rfl <;> decide
  have unsigned : ∀ trims, c ∉ sign trims := by
    rintro (_ | _) member <;> rcases brace with rfl | rfl <;> exact absurd member (by decide)
  intro member
  rcases List.mem_append.mp member with signed | member
  · exact unsigned _ signed
  rcases List.mem_append.mp member with member | signed
  · rcases List.mem_append.mp member with blank | member
    · rw [tag.leadBlank c blank] at unblank
      cases unblank
    rcases List.mem_cons.mp member with point | member
    · rcases brace with rfl | rfl <;> exact absurd point (by decide)
    rcases List.mem_append.mp member with named | blank
    · rw [tag.identifier.forall_isNameRest c named] at unnamed
      cases unnamed
    · rw [tag.trailBlank c blank] at unblank
      cases unblank
  · exact unsigned _ signed

end Tag
end ScriptedTask
