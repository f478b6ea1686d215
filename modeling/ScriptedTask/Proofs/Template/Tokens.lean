import ScriptedTask.Proofs.Template.References
import ScriptedTask.Proofs.Variables

/-! Reference tokens as an encoding of names. Making a token and taking it apart are inverse to each
other, and a text that is no token fails at the end that it lacks. A store hands out the tokens of bound
names alone, and since no call unbinds a name, a token that was handed out once stays good. -/

namespace ScriptedTask

namespace Reference

variable {text : String}

/-- The two ends of a token never share a character. -/
theorem exists_token (begins : front <+: text.toList) (ends : ending <:+ text.toList) :
    ∃ name, token name = text := by
  obtain ⟨rest, whole⟩ := begins
  rw [← whole] at ends
  have long : ending.length ≤ rest.length := by
    match rest with
    | [] => exact absurd ends (by decide)
    | [last] => simp [front, ending, List.suffix_iff_eq_drop] at ends
    | _ :: _ :: _ => simp [ending]
  obtain ⟨inner, rfl⟩ := List.suffix_of_suffix_length_le ends (List.suffix_append front rest) long
  refine ⟨String.ofList inner, ?_⟩
  rw [token, String.toList_ofList, List.append_assoc, whole, String.ofList_toList]

theorem parse_frontless (missing : ¬front <+: text.toList) : parse text = .error (.missingFront text) := by
  have plain : front.isPrefixOf text.toList = false := by
    rw [← Bool.not_eq_true, List.isPrefixOf_iff_prefix]
    exact missing
  simp [parse, plain]

theorem parse_endless (begins : front <+: text.toList) (missing : ¬ending <:+ text.toList) :
    parse text = .error (.missingEnd text) := by
  have opened : front.isPrefixOf text.toList = true := List.isPrefixOf_iff_prefix.mpr begins
  have plain : ending.isSuffixOf text.toList = false := by
    rw [← Bool.not_eq_true, List.isSuffixOf_iff_suffix]
    exact missing
  simp [parse, opened, plain]

/-- A token is just what can be taken apart, and it is taken apart into its own name. -/
theorem parse_ok_iff {name : String} : parse text = .ok name ↔ token name = text := by
  constructor
  · intro parsed
    by_cases begins : front <+: text.toList
    · by_cases ends : ending <:+ text.toList
      · obtain ⟨inner, rfl⟩ := exists_token begins ends
        rw [parse_token] at parsed
        rw [Except.ok.inj parsed]
      · rw [parse_endless begins ends] at parsed
        cases parsed
    · rw [parse_frontless begins] at parsed
      cases parsed
  · intro written
    rw [← written]
    exact parse_token name

/-- Ends of tokens within a name are left alone. -/
example : parse "\x7b\x7b.\x7d\x7d\x7b\x7b.\x7d\x7d" = .ok "\x7d\x7d\x7b\x7b." := by rfl

theorem parse_error_iff {problem : ReferenceError} :
    parse text = .error problem ↔
      problem = .missingFront text ∧ ¬front <+: text.toList ∨
        problem = .missingEnd text ∧ front <+: text.toList ∧ ¬ending <:+ text.toList := by
  by_cases begins : front <+: text.toList
  · by_cases ends : ending <:+ text.toList
    · obtain ⟨name, written⟩ := exists_token begins ends
      simp [parse_ok_iff.mpr written, begins, ends]
    · simp [parse_endless begins ends, begins, ends, eq_comm]
  · simp [parse_frontless begins, begins, eq_comm]

/-- A text with both ends has room for a name between them, if only for an empty one. -/
theorem enclosed_iff : front <+: text.toList ∧ ending <:+ text.toList ↔
    ∃ name : String, text.toList = front ++ name.toList ++ ending := by
  constructor
  · intro ⟨begins, ends⟩
    obtain ⟨name, rfl⟩ := exists_token begins ends
    exact ⟨name, String.toList_ofList⟩
  · intro ⟨name, whole⟩
    rw [whole]
    exact ⟨List.append_assoc .. ▸ List.prefix_append .., List.suffix_append ..⟩

end Reference

namespace Variables

/-- What a script is told by the variables when it asks about one text. -/
def ask (store : Variables) (method text : String) : Answer :=
  (capability.invoke ⟨capability.target, method, [some (.string text)]⟩ store).1

section Asked

variable (store : Variables) (name : String)

theorem ask_exists : store.ask "exists" name = .ok (some (.bool (store.isBound name))) := rfl

theorem ask_read : store.ask "read" name = .ok (store.read? name) := rfl

theorem ask_ref : store.ask "ref" name = (store.reference name).map fun token => some (.string token) := by
  show (do return some (Json.string (← store.reference name)) : Answer) = _
  cases store.reference name <;> rfl

theorem ask_derefName (token : String) :
    store.ask "derefName" token = (store.referencedName token).map fun name => some (.string name) := by
  show (do return some (Json.string (← store.referencedName token)) : Answer) = _
  cases store.referencedName token <;> rfl

theorem ask_derefValue (token : String) : store.ask "derefValue" token = store.referencedValue token := rfl

end Asked

/-- A write binds its own name and unbinds none. -/
theorem isBound_write (store : Variables) (written name : String) (value : Json) :
    (store.write written value).isBound name = (decide (name = written) || store.isBound name) := by
  rw [isBound, isBound, write, Ascending.contains, Ascending.contains, Ascending.get?_insert]
  by_cases same : name = written <;> simp [same]

/-- No call unbinds a name, whether it succeeds or fails. -/
theorem isBound_invoke {store : Variables} {name : String} (bound : store.isBound name = true) (call : Call) :
    (capability.invoke call store).2.isBound name = true := by
  rcases invoked : capability.invoke call store with ⟨answer, next⟩
  have left : next = Ledger.store.enterAll store (Ledger.store.entryOf? ⟨call, answer⟩).toList :=
    Ledger.store.invoke_state invoked
  rw [left]
  cases Ledger.store.entryOf? ⟨call, answer⟩ with
  | none => exact bound
  | some entry =>
    show (store.write entry.1 entry.2).isBound name = true
    rw [isBound_write, bound, Bool.or_true]

theorem isBound_converse {store : Variables} {name : String} (bound : store.isBound name = true) (calls : List Call) :
    (capability.converse calls store).2.isBound name = true := by
  induction calls generalizing store with
  | nil => exact bound
  | cons call rest ih => exact ih (isBound_invoke bound call)

theorem ask_ref_ok_iff {store : Variables} {name : String} {answer : Option Json} :
    store.ask "ref" name = .ok answer ↔ store.isBound name = true ∧ answer = some (.string (Reference.token name)) := by
  rw [ask_ref, reference]
  by_cases bound : store.isBound name = true
  · rw [if_pos bound]
    constructor
    · intro told
      exact ⟨bound, (Except.ok.inj told).symm⟩
    · intro told
      rw [told.2]
      rfl
  · rw [if_neg bound]
    constructor
    · intro told
      cases told
    · intro told
      exact absurd told.1 bound

/-- `store` hands out tokens for the names that it has, and `last` leads each of them back to its name and
to what the name stands for by then. -/
structure Refers (store last : Variables) : Prop where
  handedOut : ∀ name, (∃ answer, store.ask "ref" name = .ok answer) ↔ store.ask "exists" name = .ok (some (.bool true))
  token : ∀ name answer, store.ask "ref" name = .ok answer → answer = some (.string (Reference.token name))
  name : ∀ name token, store.ask "ref" name = .ok (some (.string token)) →
    last.ask "derefName" token = .ok (some (.string name))
  value : ∀ name token, store.ask "ref" name = .ok (some (.string token)) →
    last.ask "derefValue" token = last.ask "read" name

theorem refers_converse (store : Variables) (calls : List Call) : store.Refers (capability.converse calls store).2 where
  handedOut name := by
    rw [ask_exists]
    simp only [ask_ref_ok_iff]
    constructor
    · intro ⟨_, bound, _⟩
      rw [bound]
    · intro told
      cases bound : store.isBound name with
      | true => exact ⟨_, rfl, rfl⟩
      | false =>
        rw [bound] at told
        cases told
  token name answer told := (ask_ref_ok_iff.mp told).2
  name name token told := by
    obtain ⟨bound, same⟩ := ask_ref_ok_iff.mp told
    cases same
    rw [ask_derefName, referencedName_token (isBound_converse bound calls)]
    rfl
  value name token told := by
    obtain ⟨bound, same⟩ := ask_ref_ok_iff.mp told
    cases same
    rw [ask_derefValue, ask_read, referencedValue, referencedName_token (isBound_converse bound calls)]
    rfl

/-- Tokens stand for names one to one, and what is no token is refused for the first end that is missing. So
whatever calls were made of a store, strict or not, it refers to just the names that it has; what it handed out
leads back to the name and its value, at once and after all further calls. -/
theorem tokens_encode_names :
    (∀ text name, Reference.parse text = .ok name ↔ Reference.token name = text) ∧
    (∀ text problem, Reference.parse text = .error problem ↔
      problem = .missingFront text ∧ ¬Reference.front <+: text.toList ∨
        problem = .missingEnd text ∧ Reference.front <+: text.toList ∧ ¬Reference.ending <:+ text.toList) ∧
    (∀ text : String, Reference.front <+: text.toList ∧ Reference.ending <:+ text.toList ↔
      ∃ name : String, text.toList = Reference.front ++ name.toList ++ Reference.ending) ∧
    ∀ (start : Variables) (calls : List Call), let store := (capability.converse calls start).2
      store.Refers store ∧ ∀ later, store.Refers (capability.converse later store).2 := by
  refine ⟨fun _ _ => Reference.parse_ok_iff, fun _ _ => Reference.parse_error_iff, fun _ => Reference.enclosed_iff, ?_⟩
  intro start calls
  exact ⟨refers_converse _ [], refers_converse _⟩

end Variables
end ScriptedTask
