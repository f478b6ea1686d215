import ScriptedTask.Proofs.Json.Integers
import ScriptedTask.Proofs.Json.Layout
import ScriptedTask.Proofs.Json.Openings
import ScriptedTask.Proofs.Json.Strings

/-! Reading what stands between brackets. If a reader reads each text by itself, whatever blanks
come before it, then it reads all of them. -/

namespace ScriptedTask.Json

theorem skipBlanks_append {blanks : List Char} (blank : AllBlank blanks) (text : List Char) :
    skipBlanks (blanks ++ text) = skipBlanks text := List.dropWhile_append_of_pos blank

theorem skipBlanks_solid {c : Char} (solid : Text.isPlainBlank c = false) (rest : List Char) :
    skipBlanks (c :: rest) = c :: rest := by
  simp [skipBlanks, solid]

/-- The reader reads the text and stops behind it; what it finds may show the blanks before. -/
def Reads {α : Type} (reader : Reader α) (text : List Char) (found : List Char → α) : Prop :=
  ∀ blanks rest, AllBlank blanks → endsNumber rest = true →
    reader (blanks ++ text ++ rest) = .ok (found blanks, rest)

variable {α β : Type} {before after rest : List Char} {texts : List (List Char)} {closing : Char}

theorem endsNumber_of_allBlank {blanks : List Char} {c : Char} (blank : AllBlank blanks)
    (ends : endsNumber (c :: rest) = true) : endsNumber (blanks ++ c :: rest) = true := by
  cases blanks with
  | nil => exact ends
  | cons first more =>
    have plain := blank first List.mem_cons_self
    simp only [Text.isPlainBlank, Bool.or_eq_true, beq_iff_eq] at plain
    rcases plain with ((rfl | rfl) | rfl) | rfl <;> rfl

theorem endsNumber_enclosedRest (blank : AllBlank after) (ends : endsNumber (closing :: rest) = true) :
    endsNumber (enclosedRest closing before after texts ++ rest) = true := by
  cases texts with
  | nil =>
    rw [enclosedRest, List.append_assoc]
    exact endsNumber_of_allBlank blank ends
  | cons text more => rfl

theorem length_enclosedRest (closing : Char) (before after : List Char) (texts : List (List Char)) :
    texts.length < (enclosedRest closing before after texts).length := by
  induction texts with
  | nil => simp [enclosedRest]
  | cons text more ih =>
    simp only [enclosedRest, List.length_append, List.length_cons]
    omega

section Steps

variable {ν : Type} {item : Reader α} {name : Reader ν} {fuel : Nat} {text between later : List Char} {read : α}
  {known : ν}

theorem items_last {done : List α} (found : item text = .ok (read, later)) (closed : skipBlanks later = ']' :: rest) :
    items item (fuel + 1) done text = .ok ((read :: done).reverse, rest) := by
  simp only [items, found, bind, Except.bind, closed]
  rfl

theorem items_more {done : List α} (found : item text = .ok (read, later)) (parted : skipBlanks later = ',' :: rest) :
    items item (fuel + 1) done text = items item fuel (read :: done) rest := by
  simp only [items, found, bind, Except.bind, parted]

theorem members_last {done : List (ν × α)} (named : name text = .ok (known, between))
    (found : item between = .ok (read, later)) (closed : skipBlanks later = '}' :: rest) :
    members name item (fuel + 1) done text = .ok (((known, read) :: done).reverse, rest) := by
  simp only [members, named, found, bind, Except.bind, closed]
  rfl

theorem members_more {done : List (ν × α)} (named : name text = .ok (known, between))
    (found : item between = .ok (read, later)) (parted : skipBlanks later = ',' :: rest) :
    members name item (fuel + 1) done text = members name item fuel ((known, read) :: done) rest := by
  simp only [members, named, found, bind, Except.bind, parted]

end Steps

theorem skipBlanks_closing {blanks : List Char} (blank : AllBlank blanks) (solid : Text.isPlainBlank closing = false) :
    skipBlanks (enclosedRest closing before blanks [] ++ rest) = closing :: rest := by
  rw [enclosedRest, List.append_assoc, skipBlanks_append blank]
  exact skipBlanks_solid solid rest

theorem skipBlanks_comma {text : List Char} :
    skipBlanks (enclosedRest closing before after (text :: texts) ++ rest) =
      ',' :: (before ++ text ++ (enclosedRest closing before after texts ++ rest)) := by
  rw [enclosedRest, List.cons_append, List.cons_append, List.cons_append, List.append_assoc]
  exact skipBlanks_solid (by decide) _

/-- Items are read one after the other up to the closing bracket. -/
theorem items_enclosed {item : Reader α} {text : β → List Char} {found : β → List Char → α} (rest : List Char)
    (blankBefore : AllBlank before) (blankAfter : AllBlank after) (others : List β) :
    ∀ (first : β) (blanks : List Char) (done : List α) (fuel : Nat), AllBlank blanks → others.length < fuel →
      (∀ piece ∈ first :: others, Reads item (text piece) (found piece)) →
      items item fuel done (blanks ++ text first ++ (enclosedRest ']' before after (others.map text) ++ rest)) =
        .ok (done.reverse ++ found first blanks :: others.map fun piece => found piece before, rest) := by
  induction others with
  | nil =>
    intro first blanks done fuel blank enough reads
    obtain ⟨less, rfl⟩ : ∃ less, fuel = less + 1 := ⟨fuel - 1, by omega⟩
    have read := reads first List.mem_cons_self blanks (enclosedRest ']' before after [] ++ rest) blank
      (endsNumber_enclosedRest blankAfter rfl)
    rw [List.map_nil, items_last read (skipBlanks_closing blankAfter (by decide)), List.reverse_cons]
    rfl
  | cons second more ih =>
    intro first blanks done fuel blank enough reads
    obtain ⟨less, rfl⟩ : ∃ less, fuel = less + 1 := ⟨fuel - 1, by omega⟩
    have read := reads first List.mem_cons_self blanks
      (enclosedRest ']' before after (text second :: more.map text) ++ rest) blank
      (endsNumber_enclosedRest blankAfter rfl)
    have next := ih second before (found first blanks :: done) less blankBefore
      (by rw [List.length_cons] at enough; omega) fun piece member => reads piece (List.mem_cons_of_mem first member)
    rw [List.map_cons, items_more read skipBlanks_comma, next, List.reverse_cons, List.append_assoc]
    rfl

/-- The first item is read without the blanks before it, the others with them; here that makes no
difference. -/
theorem itemsAfter_enclosed {item : Reader α} {text : β → List Char} {found : β → List Char → α} (rest : List Char)
    (blankBefore : AllBlank before) (blankAfter : AllBlank after) {pieces : List β}
    (solid : ∀ piece ∈ pieces, ∃ c more, text piece = c :: more ∧ Text.isPlainBlank c = false ∧ c ≠ ']')
    (reads : ∀ piece ∈ pieces, Reads item (text piece) (found piece))
    (uniform : ∀ piece ∈ pieces, found piece [] = found piece before) :
    itemsAfter item (enclosed ']' before after (pieces.map text) ++ rest) =
      .ok (pieces.map fun piece => found piece before, rest) := by
  cases pieces with
  | nil =>
    have closed : skipBlanks (']' :: rest) = ']' :: rest := skipBlanks_solid (by decide) rest
    exact itemsAfter_closed item closed
  | cons first others =>
    obtain ⟨c, more, starts, plain, unclosed⟩ := solid first List.mem_cons_self
    let following := enclosedRest ']' before after (others.map text) ++ rest
    have opened : skipBlanks (before ++ text first ++ following) = text first ++ following := by
      rw [List.append_assoc, skipBlanks_append blankBefore, starts]
      exact skipBlanks_solid plain _
    have goesOn : ∀ rest, skipBlanks (before ++ text first ++ following) ≠ ']' :: rest := by
      intro rest closed
      rw [opened, starts, List.cons_append] at closed
      cases closed
      exact unclosed rfl
    have enough : others.length < (text first ++ following).length := by
      have counted := length_enclosedRest ']' before after (others.map text)
      rw [List.length_map] at counted
      simp only [following, List.length_append]
      omega
    have read := items_enclosed rest blankBefore blankAfter others first [] [] _ allBlank_nil enough reads
    rw [uniform first List.mem_cons_self] at read
    rw [List.map_cons, enclosed, List.append_assoc, itemsAfter_open item goesOn, opened]
    exact read

theorem memberName_quote (name : String) {blanks : List Char} (blank : AllBlank blanks) (rest : List Char) :
    memberName (blanks ++ quote name.toList ++ ':' :: rest) = .ok (name, rest) := by
  have opened : skipBlanks (blanks ++ quote name.toList ++ ':' :: rest) =
      '"' :: (name.toList.flatMap escape ++ '"' :: ':' :: rest) := by
    rw [List.append_assoc, skipBlanks_append blank, quote]
    simp only [List.cons_append, List.append_assoc, List.nil_append]
    exact skipBlanks_solid (by decide) _
  have parted : skipBlanks (':' :: rest) = ':' :: rest := skipBlanks_solid (by decide) rest
  simp only [memberName, opened, stringBody_quoted, bind, Except.bind, parted, List.reverse_nil, List.nil_append,
    String.ofList_toList]
  rfl

/-- Members are read one after the other up to the closing brace. -/
theorem members_enclosed {item : Reader α} {text : β → List Char} {found : β → List Char → α}
    {gap : List Char} (rest : List Char) (blankBefore : AllBlank before) (blankAfter : AllBlank after)
    (blankGap : AllBlank gap) (others : List (String × β)) :
    ∀ (first : String × β) (blanks : List Char) (done : List (String × α)) (fuel : Nat), AllBlank blanks →
      others.length < fuel → (∀ piece ∈ first :: others, Reads item (text piece.2) (found piece.2)) →
      members memberName item fuel done
          (blanks ++ memberText gap first.1 (text first.2) ++
            (enclosedRest '}' before after (others.map fun piece => memberText gap piece.1 (text piece.2)) ++ rest)) =
        .ok (done.reverse ++ (first :: others).map fun piece => (piece.1, found piece.2 gap), rest) := by
  -- The text of a member is its name, the colon, and what the reader of items reads.
  have parts : ∀ (piece : String × β) (blanks following : List Char),
      blanks ++ memberText gap piece.1 (text piece.2) ++ following =
        blanks ++ quote piece.1.toList ++ ':' :: (gap ++ text piece.2 ++ following) := by
    intro piece blanks following
    simp [memberText]
  induction others with
  | nil =>
    intro first blanks done fuel blank enough reads
    obtain ⟨less, rfl⟩ : ∃ less, fuel = less + 1 := ⟨fuel - 1, by omega⟩
    have read := reads first List.mem_cons_self gap (enclosedRest '}' before after [] ++ rest) blankGap
      (endsNumber_enclosedRest blankAfter rfl)
    rw [List.map_nil, parts, members_last (memberName_quote first.1 blank _) read
      (skipBlanks_closing blankAfter (by decide)), List.reverse_cons]
    rfl
  | cons second more ih =>
    intro first blanks done fuel blank enough reads
    obtain ⟨less, rfl⟩ : ∃ less, fuel = less + 1 := ⟨fuel - 1, by omega⟩
    have read := reads first List.mem_cons_self gap (enclosedRest '}' before after
      (memberText gap second.1 (text second.2) ::
        more.map fun piece => memberText gap piece.1 (text piece.2)) ++ rest) blankGap
      (endsNumber_enclosedRest blankAfter rfl)
    have next := ih second before ((first.1, found first.2 gap) :: done) less blankBefore
      (by rw [List.length_cons] at enough; omega) fun piece member => reads piece (List.mem_cons_of_mem first member)
    rw [List.map_cons, parts, members_more (memberName_quote first.1 blank _) read skipBlanks_comma, next,
      List.reverse_cons, List.append_assoc]
    rfl

theorem membersAfter_enclosed {item : Reader α} (text : β → List Char) (found : β → List Char → α) {gap : List Char}
    (rest : List Char) (blankBefore : AllBlank before) (blankAfter : AllBlank after) (blankGap : AllBlank gap)
    {pieces : List (String × β)} (reads : ∀ piece ∈ pieces, Reads item (text piece.2) (found piece.2)) :
    membersAfter memberName item
        (enclosed '}' before after (pieces.map fun piece => memberText gap piece.1 (text piece.2)) ++ rest) =
      .ok (pieces.map fun piece => (piece.1, found piece.2 gap), rest) := by
  cases pieces with
  | nil =>
    have closed : skipBlanks ('}' :: rest) = '}' :: rest := skipBlanks_solid (by decide) rest
    exact membersAfter_closed memberName item closed
  | cons first others =>
    let following := enclosedRest '}' before after
      (others.map fun piece => memberText gap piece.1 (text piece.2)) ++ rest
    obtain ⟨more, starts⟩ : ∃ more, memberText gap first.1 (text first.2) = '"' :: more := ⟨_, rfl⟩
    have opened : skipBlanks (before ++ memberText gap first.1 (text first.2) ++ following) =
        memberText gap first.1 (text first.2) ++ following := by
      rw [List.append_assoc, skipBlanks_append blankBefore, starts]
      exact skipBlanks_solid (by decide) _
    have goesOn : ∀ rest,
        skipBlanks (before ++ memberText gap first.1 (text first.2) ++ following) ≠ '}' :: rest := by
      intro rest closed
      rw [opened, starts, List.cons_append] at closed
      cases closed
    have enough : others.length < (memberText gap first.1 (text first.2) ++ following).length := by
      have counted := length_enclosedRest '}' before after
        (others.map fun piece => memberText gap piece.1 (text piece.2))
      rw [List.length_map] at counted
      simp only [following, List.length_append]
      omega
    rw [List.map_cons, enclosed, List.append_assoc, membersAfter_open memberName item goesOn, opened]
    exact members_enclosed rest blankBefore blankAfter blankGap others first [] [] _ allBlank_nil enough reads

end ScriptedTask.Json
