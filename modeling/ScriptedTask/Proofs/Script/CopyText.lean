import ScriptedTask.Proofs.Script.Copying
import ScriptedTask.Proofs.Script.Tokens

/-! For every pair of names there is a script that copies. -/

namespace ScriptedTask.Script

open Text (Units)

/-- The start of a call of a method. -/
def calling (target method : String) : List Char := target.toList ++ '.' :: (method.toList ++ ['('])

def callingLexemes (target method : String) (broken : Bool) : List Lexeme :=
  [⟨.word (Units.ofString target) false, broken⟩, ⟨.mark ".", false⟩, ⟨.word (Units.ofString method) false, false⟩,
    ⟨.mark "(", false⟩]

/-- Blanks that may stand before a call, and whether a line ends in them. -/
def gaps : List (List Char × Bool) := [([], false), ([' '], false), (['\n'], true)]

theorem cuts_words {gap : List Char} {target method : String} {first start : Char} {more others : List Char} {broken : Bool}
    (spelled : target.toList = first :: more ∧ method.toList = start :: others)
    (skipped : ∀ fuel rest, Token.skipBlanks (fuel + 2) false (gap ++ first :: rest) = .ok (broken, first :: rest))
    (solid : ∀ fuel rest, Token.skipBlanks (fuel + 2) false (start :: rest) = .ok (false, start :: rest))
    (point : ∀ fuel rest, Token.one fuel ('.' :: start :: rest) = .ok (.mark ".", start :: rest))
    (starts : Token.isNameStart first = true ∧ Token.isNameStart start = true)
    (parts : target.toList.all Token.isNamePart = true ∧ method.toList.all Token.isNamePart = true)
    (braces : List Bool) (rest : List Char) :
    Token.Cuts braces (gap ++ (calling target method ++ rest)) (callingLexemes target method broken) braces rest := by
  rw [spelled.1, spelled.2] at parts
  have targetCuts := Token.Cuts.word braces gap skipped starts.1 parts.1 (by decide +kernel : _ ∧ '.' ≠ '\\')
    (start :: others ++ '(' :: rest)
  have pointCuts : Token.Cuts braces ('.' :: (start :: others ++ '(' :: rest)) [⟨.mark ".", false⟩] braces _ :=
    .mark braces [] '.' "." _ (fun _ => rfl) (.inl (by decide)) fun fuel => point fuel _
  have methodCuts := Token.Cuts.word braces [] solid starts.2 parts.2 (by decide +kernel : _ ∧ '(' ≠ '\\') rest
  have openCuts : Token.Cuts braces ('(' :: rest) [⟨.mark "(", false⟩] braces rest :=
    .mark braces [] '(' "(" rest (fun _ => rfl) (.inl (by decide)) fun _ => rfl
  have whole := targetCuts.trans (pointCuts.trans (methodCuts.trans openCuts))
  simpa [calling, callingLexemes, Units.ofString, spelled] using whole

theorem cuts_calling {gap : List Char} {broken : Bool} (before : (gap, broken) ∈ gaps) {target method : String}
    (known : (target, method) ∈ Realm.transfers) (braces : List Bool) (rest : List Char) :
    Token.Cuts braces (gap ++ (calling target method ++ rest)) (callingLexemes target method broken) braces rest := by
  simp only [gaps, Realm.transfers, List.mem_cons, Prod.mk.injEq, List.not_mem_nil, or_false] at before known
  rcases before with ⟨rfl, rfl⟩ | ⟨rfl, rfl⟩ | ⟨rfl, rfl⟩ <;>
    rcases known with ⟨rfl, rfl⟩ | ⟨rfl, rfl⟩ | ⟨rfl, rfl⟩ | ⟨rfl, rfl⟩ <;>
    exact cuts_words ⟨rfl, rfl⟩ (fun _ _ => rfl) (fun _ _ => rfl) (fun _ _ => rfl) (by decide +kernel)
      (by decide +kernel) braces rest

/-- The characters of a script that copies a value. -/
def copyChars (origin : Origin) (sink : Sink) (source destination : String) : List Char :=
  calling sink.target sink.method ++ (Json.quote destination.toList ++ ',' :: ' ' ::
    (calling origin.target origin.method ++ (Json.quote source.toList ++ [')', ')'])))

/-- Its tokens. Strings are verbatim if nothing is escaped in them. -/
def copyLexemes (origin : Origin) (sink : Sink) (source destination : String) (broken verbatim plain : Bool) : List Lexeme :=
  callingLexemes sink.target sink.method broken ++ (⟨.string (Units.ofString destination) verbatim false, false⟩ ::
    ⟨.mark ",", false⟩ :: (callingLexemes origin.target origin.method false ++
      [⟨.string (Units.ofString source) plain false, false⟩, ⟨.mark ")", false⟩, ⟨.mark ")", false⟩]))

section Names

variable (origin : Origin) (sink : Sink) (source destination : String)

theorem cuts_copy : ∃ verbatim plain, ∀ (gap : List Char) (broken : Bool), (gap, broken) ∈ gaps →
    ∀ (braces : List Bool) (rest : List Char), Token.Cuts braces (gap ++ (copyChars origin sink source destination ++ rest))
      (copyLexemes origin sink source destination broken verbatim plain) braces rest := by
  obtain ⟨verbatim, destinationCuts⟩ := Token.Cuts.quoted destination.toList
  obtain ⟨plain, sourceCuts⟩ := Token.Cuts.quoted source.toList
  refine ⟨verbatim, plain, fun gap broken before braces rest => ?_⟩
  have comma (more : List Char) : Token.Cuts braces (',' :: more) [⟨.mark ",", false⟩] braces more :=
    .mark braces [] ',' "," more (fun _ => rfl) (.inl (by decide)) fun _ => rfl
  have close (more : List Char) : Token.Cuts braces (')' :: more) [⟨.mark ")", false⟩] braces more :=
    .mark braces [] ')' ")" more (fun _ => rfl) (.inl (by decide)) fun _ => rfl
  have closing := (close (')' :: rest)).trans (close rest)
  have apart : ([' '], false) ∈ gaps := by simp [gaps]
  have reading := (cuts_calling apart origin.known braces _).trans ((sourceCuts braces _).trans closing)
  have handing := (destinationCuts braces _).trans ((comma _).trans reading)
  have whole := (cuts_calling before sink.known braces _).trans handing
  simpa [copyChars, copyLexemes, Units.ofString] using whole

/-- The program that the tokens spell. -/
def copyProgram (origin : Origin) (sink : Sink) (source destination : String) : Program :=
  ⟨[], .mk [] [] [copyStatement origin sink source destination], 42⟩

set_option maxRecDepth 10000 in
theorem wholeProgram_copy (verbatim plain : Bool) :
    ((Grammar.wholeProgram true).run { tokens := copyLexemes origin sink source destination false verbatim plain }).map
      Prod.fst = .ok (copyProgram origin sink source destination) := by
  cases origin <;> cases sink <;> rfl

/-- The tokens of a function with the script as its body. -/
def functionLexemes (body : List Lexeme) : List Lexeme :=
  [⟨.mark "(", false⟩, ⟨.word (Units.ofString "function") false, false⟩, ⟨.word (Units.ofString "anonymous") false, false⟩,
    ⟨.mark "(", false⟩, ⟨.mark ")", true⟩, ⟨.mark "\x7b", false⟩] ++ (body ++ [⟨.mark "\x7d", true⟩, ⟨.mark ")", false⟩])

set_option maxRecDepth 10000 in
theorem wholeProgram_function (verbatim plain : Bool) : ∃ program,
    ((Grammar.wholeProgram false).run
      { tokens := functionLexemes (copyLexemes origin sink source destination true verbatim plain) }).map Prod.fst =
      .ok program := by
  cases origin <;> cases sink <;> exact ⟨_, rfl⟩

theorem read_of_tokens {strict : Bool} {text : List Char} {lexemes : List Lexeme} (cut : Token.tokens text = .ok lexemes) :
    Program.read strict text = ((Grammar.wholeProgram strict).run { tokens := lexemes }).map Prod.fst := by
  rw [Program.read, cut]
  simp only [Bind.bind, Except.bind]
  cases (Grammar.wholeProgram strict).run { tokens := lexemes } <;> rfl

theorem cuts_function {body : List Char} {lexemes : List Lexeme}
    (inner : ∀ rest, Token.Cuts [false] ('\n' :: (body ++ rest)) lexemes [false] rest) :
    Token.Cuts [] (functionText body) (functionLexemes lexemes) [] [] := by
  have bracket (more : List Char) : Token.Cuts [] ('(' :: more) [⟨.mark "(", false⟩] [] more :=
    .mark [] [] '(' "(" more (fun _ => rfl) (.inl (by decide)) fun _ => rfl
  have keyword (more : List Char) : Token.Cuts [] ("function".toList ++ ' ' :: more)
      [⟨.word (Units.ofString "function") false, false⟩] [] _ :=
    .word [] [] (fun _ _ => rfl) (by decide +kernel) (by decide +kernel) (by decide +kernel) more
  have name (more : List Char) : Token.Cuts [] (" anonymous".toList ++ '(' :: more)
      [⟨.word (Units.ofString "anonymous") false, false⟩] [] _ :=
    .word [] [' '] (fun _ _ => rfl) (by decide +kernel) (by decide +kernel) (by decide +kernel) more
  have parameters (more : List Char) : Token.Cuts [] ('\n' :: ')' :: more) [⟨.mark ")", true⟩] [] more :=
    .mark [] ['\n'] ')' ")" more (fun _ => rfl) (.inl (by decide)) fun _ => rfl
  have opens (more : List Char) : Token.Cuts [] (' ' :: '\x7b' :: more) [⟨.mark "\x7b", false⟩] [false] more :=
    .mark [] [' '] '\x7b' "\x7b" more (fun _ => rfl) (.inl (by decide)) fun _ => rfl
  have closes (more : List Char) : Token.Cuts [false] ('\n' :: '\x7d' :: more) [⟨.mark "\x7d", true⟩] [] more :=
    .mark [false] ['\n'] '\x7d' "\x7d" more (fun _ => rfl) (.inr (by simp)) fun _ => rfl
  have last : Token.Cuts [] [')'] [⟨.mark ")", false⟩] [] [] :=
    .mark [] [] ')' ")" [] (fun _ => rfl) (.inl (by decide)) fun _ => rfl
  have inside := (opens _).trans ((inner _).trans ((closes _).trans last))
  exact (bracket _).trans ((keyword _).trans ((name _).trans ((bracket _).trans ((parameters _).trans inside))))

theorem hexDigit_ne_nul : ∀ code < 32, Json.hexDigit (code / 16) ≠ '\x00' ∧ Json.hexDigit (code % 16) ≠ '\x00' := by
  decide

/-- A quoted text has no NUL in it. -/
theorem nul_not_mem_quote (text : List Char) : '\x00' ∉ Json.quote text := by
  have escaped (c : Char) : '\x00' ∉ Json.escape c := by
    unfold Json.escape
    iterate 7
      split
      · decide
    split
    next control =>
      obtain ⟨high, low⟩ := hexDigit_ne_nul c.toNat control
      simp [Ne.symm high, Ne.symm low]
    next plain =>
      rw [List.mem_singleton]
      rintro rfl
      exact plain (by decide)
  simp [Json.quote, escaped]

theorem nul_not_mem_calling {target method : String} (known : (target, method) ∈ Realm.transfers) :
    '\x00' ∉ calling target method := by
  have each : ∀ entry ∈ Realm.transfers, '\x00' ∉ calling entry.1 entry.2 := by decide
  exact each _ known

/-- A text that is a script which copies a value. -/
def copyText (origin : Origin) (sink : Sink) (source destination : String) : String :=
  String.ofList (copyChars origin sink source destination)

/-- For any two names there is a script that copies from the one to the other. -/
theorem copies_copyText : Copies (copyText origin sink source destination) origin sink source destination := by
  obtain ⟨verbatim, plain, cuts⟩ := cuts_copy origin sink source destination
  have alone := cuts [] false (by simp [gaps]) [] []
  rw [List.nil_append, List.append_nil] at alone
  have inside := cuts_function fun rest => cuts ['\n'] true (by simp [gaps]) [false] rest
  refine ⟨?_, ?_, ?_, ?_⟩
  · rw [Text.isBlankText, copyText, String.toList_ofList]
    cases sink <;> rfl
  · rw [copyText, String.toList_ofList, nulPosition?, if_neg]
    simp [copyChars, nul_not_mem_quote, nul_not_mem_calling origin.known, nul_not_mem_calling sink.known]
  · rw [copyText, String.toList_ofList, read_of_tokens inside.tokens]
    exact wholeProgram_function origin sink source destination verbatim plain
  · refine ⟨copyProgram origin sink source destination, ?_, (by decide : 5 ≤ 42), rfl, rfl⟩
    rw [copyText, String.toList_ofList, read_of_tokens alone.tokens]
    exact wholeProgram_copy origin sink source destination verbatim plain

end Names

end ScriptedTask.Script
