import ScriptedTask.Proofs.Json.Limits
import ScriptedTask.Proofs.Json.RoundTrip

/-! Passing over values. What can be read can be passed over, whatever it holds, so a part of a
text is exactly the text of the value in it. -/

namespace ScriptedTask.Json

theorem skipString_of_stringBody (done : List Char) : Tracks (stringBody done) skipString fun _ => () := by
  intro text content rest read
  fun_induction stringBody done text
  case case2 => cases read; rfl
  case case6 ih => simp_all [skipString]
  case case11 ih => simp_all [skipString]
  case case12 ih => simp_all [skipString]
  case case15 ih => simp_all [skipString, -Char.not_lt]
  all_goals cases read

theorem skipName_of_memberName : Tracks memberName skipName fun _ => () := by
  intro text name rest read
  unfold memberName at read
  unfold skipName
  generalize skipBlanks text = start at read ⊢
  split at read
  next =>
    simp only [bind, Except.bind] at read
    split at read
    · cases read
    next content found =>
      split at read
      next colon parted =>
        cases read
        simp only [skipString_of_stringBody [] found, bind, Except.bind, parted]
        rfl
      · cases read
  · cases read

theorem lexeme_of_number {text rest : List Char} {found : Json} (read : number text = .ok (found, rest)) :
    passed (lexeme text) = .ok ((), rest) := by
  obtain ⟨parts, first, -⟩ := number_ok read
  rw [first]
  rfl

theorem passed_ok {α : Type} {result : Except Failure (α × List Char)} {found : α} {rest : List Char}
    (done : result = .ok (found, rest)) : passed result = .ok ((), rest) := by
  rw [done]
  rfl

/-- A value that can be read within a limit can be passed over with more fuel than the limit. -/
theorem skip_of_value {limit fuel : Nat} (enough : limit < fuel) : Tracks (value limit) (skip fuel) fun _ => () := by
  induction limit using Nat.strongRecOn generalizing fuel with
  | ind limit ih =>
    intro text found rest read
    obtain ⟨less, rfl⟩ : ∃ less, fuel = less + 1 := ⟨fuel - 1, by omega⟩
    rw [skip_eq]
    cases value_ok.mp read with
    | word opened => simp only [opened]
    | string opened closed =>
      simp only [opened]
      exact skipString_of_stringBody [] closed
    | @array inner later founds within opened listed =>
      have inside : Tracks (value inner) (skip less) fun _ => () := ih inner (by omega) (by omega)
      simp only [opened]
      exact passed_ok (itemsAfter_track inside listed)
    | @object inner later founds within opened listed =>
      have inside : Tracks (value inner) (skip less) fun _ => () := ih inner (by omega) (by omega)
      simp only [opened]
      exact passed_ok (membersAfter_track skipName_of_memberName inside listed)
    | number opened read =>
      simp only [opened]
      exact lexeme_of_number read

end ScriptedTask.Json
