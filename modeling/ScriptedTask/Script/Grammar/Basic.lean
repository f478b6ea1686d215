import ScriptedTask.Script.Program
import ScriptedTask.Script.Token

/-! The ground of the grammar: readers of tokens, and the scopes that names are declared in
while a text is read. A name clashes with a block's own names, and a variable with those of
every block between it and its function. -/

namespace ScriptedTask.Script.Grammar

open Text (Units)

/-- The names that one block declares. -/
structure Scope where
  /-- A function's own scope, where its variables end up. -/
  isFunction : Bool := false
  parameters : List Name := []
  /-- Parameters of an error handler, which variables may repeat. -/
  caught : List Name := []
  lexicals : List (Name × Declaration) := []
  /-- Variables declared in this block or in one inside it. -/
  hoisted : List Name := []
  functions : List FunctionCode := []

structure State where
  tokens : List Lexeme
  scopes : List Scope := []
  usesArguments : Bool := false
  hasInner : Bool := false

/-- What surrounds the text that is read next. -/
structure Context where
  strict : Bool
  inFunction : Bool := false
  /-- The word `in` is an operator, which it is not in the head of a loop. -/
  allowsIn : Bool := true
  inLoop : Bool := false
  breakable : Bool := false
  /-- Labels around the text, and whether each stands before a loop. -/
  labels : List (Name × Bool) := []

abbrev Reading := StateT State (Except SyntaxFault)

def fault {α : Type} (message : String) : Reading α := fun _ => .error ⟨message⟩

def unexpected {α : Type} : Reading α := fault "unexpected token"

def name (text : String) : Name := Units.ofAscii text

/-! Tokens -/

def next? : Reading (Option Lexeme) := return (← get).tokens.head?

def skip : Reading Unit := modify fun state => { state with tokens := state.tokens.tail }

def isWord (text : String) : Token → Bool
  | .word found false => found == name text
  | _ => false

def isMark (text : String) : Token → Bool
  | .mark found => found == text
  | _ => false

def atToken (test : Token → Bool) : Reading Bool := return ((← next?).map fun found => test found.token).getD false

def atMark (text : String) : Reading Bool := atToken (isMark text)

def atWord (text : String) : Reading Bool := atToken (isWord text)

/-- Reads the token if it passes the test. -/
def accept (test : Token → Bool) : Reading Bool := do
  if ← atToken test then
    skip
    return true
  else return false

/-- Reads the token if that is allowed and it passes the test. -/
def acceptIf (allowed : Bool) (test : Token → Bool) : Reading Bool := if allowed then accept test else return false

def acceptMark (text : String) : Reading Bool := accept (isMark text)

def acceptWord (text : String) : Reading Bool := accept (isWord text)

def expect (test : Token → Bool) : Reading Unit := do if !(← accept test) then unexpected

def expectMark (text : String) : Reading Unit := expect (isMark text)

def expectWord (text : String) : Reading Unit := expect (isWord text)

/-- A line ends before the next token, or the text does. -/
def atBreak : Reading Bool := return ((← next?).map Lexeme.afterBreak).getD true

/-- A statement ends with a semicolon, or where a line, a block or the text ends. -/
def endStatement : Reading Unit := do
  if ← acceptMark ";" then return
  if (← atMark "\x7d") || (← atBreak) then return
  unexpected

/-- Repeats a reader that tells whether to go on, at most `fuel` times. -/
def rounds {α : Type} (step : α → Reading (α × Bool)) : Nat → α → Reading α
  | 0, _ => unexpected
  | fuel + 1, found => do
    let (found, more) ← step found
    if more then rounds step fuel found else return found

/-- Repeats a reader that takes a token or more in each round but the last. -/
def repeated {α : Type} (step : α → Reading (α × Bool)) (start : α) : Reading α := do
  rounds step ((← get).tokens.length + 2) start

/-! Names -/

def reserved : List Name := List.map name
  ["break", "case", "catch", "class", "const", "continue", "debugger", "default", "delete", "do",
    "else", "enum", "export", "extends", "false", "finally", "for", "function", "if", "import", "in",
    "instanceof", "new", "null", "return", "super", "switch", "this", "throw", "true", "try",
    "typeof", "var", "void", "while", "with"]

def strictlyReserved : List Name := List.map name
  ["implements", "interface", "let", "package", "private", "protected", "public", "static", "yield"]

def isReserved (strict : Bool) (word : Name) : Bool :=
  reserved.contains word || (strict && strictlyReserved.contains word)

/-- Names that strict programs may neither bind nor assign. -/
def isRestricted (word : Name) : Bool := word == name "eval" || word == name "arguments"

/-- A name that may be bound. -/
def checkBound (strict : Bool) (word : Name) : Reading Unit := do
  if isReserved strict word then unexpected
  if strict && isRestricted word then fault "invalid variable name in strict mode"

/-- The next token as a name that is not reserved. -/
def anyName (strict : Bool) : Reading Name := do
  match ← next? with
  | some ⟨.word found _, _⟩ =>
    if isReserved strict found then unexpected
    skip
    return found
  | _ => unexpected

def boundName (strict : Bool) : Reading Name := do
  let found ← anyName strict
  checkBound strict found
  return found

/-! Scopes -/

def redeclared {α : Type} : Reading α := fault "redeclaration of a name"

def Scope.hasLexical (scope : Scope) (word : Name) : Bool := scope.lexicals.any (·.1 == word)

def Scope.hasFunction (scope : Scope) (word : Name) : Bool := scope.functions.any (·.name == word)

/-- The scopes after a variable is declared in the innermost. -/
def withVariable (word : Name) : List Scope → Option (List Scope)
  | [] => some []
  | scope :: outer =>
    let scope' := if scope.hoisted.contains word then scope else { scope with hoisted := word :: scope.hoisted }
    if scope.hasLexical word then none
    else if scope.isFunction then some (scope' :: outer)
    else if scope.hasFunction word then none
    else (withVariable word outer).map (scope' :: ·)

def declareVariable (word : Name) : Reading Unit := do
  match withVariable word (← get).scopes with
  | some scopes => modify fun state => { state with scopes := scopes }
  | none => redeclared

def changeScope (change : Scope → Reading Scope) : Reading Unit := do
  match (← get).scopes with
  | scope :: outer =>
    let changed ← change scope
    modify fun state => { state with scopes := changed :: outer }
  | [] => return

def declareLexical (word : Name) (declaration : Declaration) : Reading Unit := do
  if word == name "let" then unexpected
  changeScope fun scope => do
    if scope.hasLexical word || scope.hoisted.contains word || scope.hasFunction word ||
        scope.parameters.contains word || scope.caught.contains word then redeclared
    return { scope with lexicals := (word, declaration) :: scope.lexicals }

/-- Declares a function. Its block may declare it again if the block is a function's own, or if
the program is not strict. -/
def declareFunction (strict : Bool) (code : FunctionCode) : Reading Unit :=
  changeScope fun scope => do
    let clashes := scope.hasLexical code.name || scope.caught.contains code.name ||
      (!scope.isFunction && (scope.hoisted.contains code.name || (strict && scope.hasFunction code.name)))
    if clashes then redeclared
    return { scope with functions := scope.functions ++ [code] }

/-- Reads inside a scope of its own, and hands back what was declared in it. -/
def inScope {α : Type} (scope : Scope) (inner : Reading α) : Reading (α × Scope) := do
  modify fun state => { state with scopes := scope :: state.scopes }
  let found ← inner
  match (← get).scopes with
  | closed :: outer =>
    modify fun state => { state with scopes := outer }
    return (found, closed)
  | [] => return (found, scope)

/-! The grammar as a whole. A production reads what is nested in it through the grammar of one
level less, so that reading ends. -/

structure Productions where
  expression : Context → Reading Expr
  assignment : Context → Reading Expr
  unary : Context → Reading Expr
  power : Context → Reading Expr
  construct : Context → Reading Expr
  statement : Context → Reading Stmt
  function : Context → FunctionKind → Name → Bool → Reading FunctionCode
  arrow : Context → Reading FunctionCode

end ScriptedTask.Script.Grammar
