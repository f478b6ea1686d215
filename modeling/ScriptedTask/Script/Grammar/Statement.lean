import ScriptedTask.Script.Grammar.Expression

/-! Statements, functions and whole programs. -/

namespace ScriptedTask.Script.Grammar

open Text (Units)

def blockOf (scope : Scope) (statements : List Stmt) : Block :=
  .mk scope.lexicals.reverse scope.functions statements

/-! Directives -/

/-- A line that may start after a string that stands alone. -/
def startsAfresh (found : Lexeme) : Bool :=
  found.afterBreak && match found.token with
    | .mark text => text == "++" || text == "--"
    | token => !isWord "in" token && !isWord "instanceof" token

/-- The directives at the front of a body ask for strictness. -/
def asksStrictness : List Lexeme → Bool
  | ⟨.string text verbatim _, _⟩ :: rest =>
    let asks := verbatim && text == name "use strict"
    match rest with
    | [] => asks
    | ⟨.mark ";", _⟩ :: more => asks || asksStrictness more
    | ⟨.mark "\x7d", _⟩ :: _ => asks
    | found :: more => startsAfresh found && (asks || asksStrictness (found :: more))
  | _ => false

/-! Functions -/

def parameter (g : Productions) (context : Context) : Reading Parameter := do
  let word ← anyName context.strict
  if ← acceptMark "=" then return .mk word (some ((← g.assignment context).named word))
  return .mk word none

/-- Parameters after the opening parenthesis, and the one that takes the rest. -/
def parameters (g : Productions) (context : Context) : Reading (List Parameter × Option Name) := do
  if ← acceptMark ")" then return ([], none)
  let (found, rest) ← repeated (fun (done, _) => do
    if ← acceptMark "..." then
      let word ← anyName context.strict
      expectMark ")"
      return ((done, some word), false)
    let read ← parameter g context
    if ← acceptMark "," then return ((read :: done, none), !(← acceptMark ")"))
    expectMark ")"
    return ((read :: done, none), false)) ([], none)
  return (found.reverse, rest)

def parameterName : Parameter → Name
  | .mk word _ => word

def isPlain : Parameter → Bool
  | .mk _ default => default.isNone

/-- Parameters that strictness forbids, or that occur twice where they may not. -/
def checkParameters (strict : Bool) (kind : FunctionKind) (found : List Parameter) (rest : Option Name) :
    Reading Unit := do
  let names := found.map parameterName ++ rest.toList
  for word in names do checkBound strict word
  let repeatable := !strict && kind = .ordinary && rest.isNone && found.all isPlain
  if !repeatable && names.eraseDups.length ≠ names.length then
    fault "duplicate parameter names not allowed in this context"

/-- Statements up to a closing brace or the end. -/
def statements (item : Reading Stmt) : Reading (List Stmt) := do
  let found ← repeated (fun done => do
    if (← next?).isNone || (← atMark "\x7d") then return (done, false)
    return ((← item) :: done, true)) []
  return found.reverse

/-- A function whose parameters are read. Its own needs are told apart from its surroundings';
an arrow takes the arguments of the function around it. -/
def withParameters (kind : FunctionKind) (called : Name) (bindsItself : Bool) (found : List Parameter)
    (rest : Option Name) (body : Reading (List Stmt)) : Reading FunctionCode := do
  let names := found.map parameterName ++ rest.toList
  let (read, scope) ← inScope { isFunction := true, parameters := names } body
  let inner ← get
  let hoisted := scope.hoisted.reverse.filter fun word => !names.contains word
  return .mk called kind found rest hoisted (blockOf scope read) bindsItself
    (inner.usesArguments && kind ≠ .arrow) inner.hasInner

/-- Reads a function with fresh needs, and restores those of its surroundings. -/
def enclosed (reading : Reading FunctionCode) (isArrow : Bool) : Reading FunctionCode := do
  let outer ← get
  set { outer with usesArguments := false, hasInner := false }
  let code ← reading
  let inner ← get
  set { inner with usesArguments := outer.usesArguments || (isArrow && inner.usesArguments), hasInner := true }
  return code

def bodyContext (strict : Bool) : Context := { strict, inFunction := true }

/-- A body after its opening brace, with what is strict about it checked. -/
def bracedBody (g : Productions) (item : Productions → Context → Reading Stmt) (strict : Bool)
    (kind : FunctionKind) (called : Name) (bindsItself : Bool) (found : List Parameter) (rest : Option Name) :
    Reading FunctionCode := do
  let asks := asksStrictness (← get).tokens
  let strict' := strict || asks
  if asks && !(found.all isPlain && rest.isNone) then
    fault "use strict not allowed in function with default or destructuring parameter"
  checkParameters strict' kind found rest
  if kind = .ordinary && !called.isEmpty then checkBound strict' called
  let code ← withParameters kind called bindsItself found rest (statements (item g (bodyContext strict')))
  expectMark "\x7d"
  return code

def function (item : Productions → Context → Reading Stmt) (g : Productions) (context : Context)
    (kind : FunctionKind) (called : Name) (bindsItself : Bool) : Reading FunctionCode :=
  enclosed (do
    expectMark "("
    let (found, rest) ← parameters g { context with allowsIn := true }
    expectMark "\x7b"
    bracedBody g item context.strict kind called bindsItself found rest) false

def arrowParameters (g : Productions) (context : Context) : Reading (List Parameter × Option Name) := do
  if ← acceptMark "(" then parameters g { context with allowsIn := true }
  else return ([.mk (← anyName context.strict) none], none)

/-- An arrow function. A body without braces is an expression that is handed back. -/
def arrow (item : Productions → Context → Reading Stmt) (g : Productions) (context : Context) :
    Reading FunctionCode :=
  enclosed (do
    let (found, rest) ← arrowParameters g context
    expectMark "=>"
    if ← acceptMark "\x7b" then bracedBody g item context.strict .arrow #[] false found rest
    else
      checkParameters context.strict .arrow found rest
      withParameters .arrow #[] false found rest do return [.return (some (← g.assignment context))]) true

/-! Declarations -/

def declarator (g : Productions) (context : Context) (kind : Declaration) (word : Name) : Reading Declarator := do
  if ← acceptMark "=" then return .mk word (some ((← g.assignment context).named word))
  if kind = .constant then fault "missing initializer for const variable"
  return .mk word none

def declareName (kind : Declaration) (word : Name) : Reading Unit :=
  match kind with
  | .variable => declareVariable word
  | _ => declareLexical word kind

/-- The declarators after one whose name is read. -/
def declaratorsFrom (g : Productions) (context : Context) (kind : Declaration) (word : Name) :
    Reading (List Declarator) := do
  let first ← declarator g context kind word
  let found ← repeated (fun done => do
    if ← acceptMark "," then
      let word ← boundName context.strict
      declareName kind word
      return ((← declarator g context kind word) :: done, true)
    return (done, false)) [first]
  return found.reverse

/-- A declaration after its word. -/
def declaration (g : Productions) (context : Context) (kind : Declaration) : Reading Stmt := do
  let word ← boundName context.strict
  declareName kind word
  let found ← declaratorsFrom g context kind word
  endStatement
  return .declare kind found

def functionDeclaration (g : Productions) (context : Context) : Reading Stmt := do
  let called ← boundName context.strict
  let code ← g.function context .ordinary called false
  declareFunction context.strict code
  return .empty

/-- The word that starts a declaration. Outside strict programs `let` is also a name. -/
def declarationKind? (strict : Bool) (tokens : List Lexeme) : Option Declaration :=
  match tokens with
  | ⟨token, _⟩ :: rest =>
    if isWord "var" token then some .variable
    else if isWord "const" token then some .constant
    else if isWord "let" token then
      match rest with
      | ⟨.word word _, _⟩ :: _ =>
        if strict || !(word == name "in" || word == name "instanceof" || word == name "of") then some .changing
        else none
      | ⟨.mark mark, _⟩ :: _ => if strict || mark == "[" || mark == "\x7b" then some .changing else none
      | _ => if strict then some .changing else none
    else none
  | [] => none

/-! Statements -/

/-- An item of a statement list: a declaration or a statement. -/
def listStatement (g : Productions) (context : Context) : Reading Stmt := do
  if ← acceptWord "function" then functionDeclaration g context
  else
    match declarationKind? context.strict (← get).tokens with
    | some kind =>
      skip
      declaration g context kind
    | none => g.statement context

def block (g : Productions) (context : Context) (scope : Scope) : Reading Block := do
  expectMark "\x7b"
  let (read, scope) ← inScope scope (statements (listStatement g context))
  expectMark "\x7d"
  return blockOf scope read

def parenthesized (g : Productions) (context : Context) : Reading Expr := do
  expectMark "("
  let found ← g.expression context
  expectMark ")"
  return found

/-- A branch of a test. Outside strict programs it may be a function. -/
def branchBody (g : Productions) (context : Context) : Reading Stmt := do
  if ← acceptIf (!context.strict) (isWord "function") then
    let (read, scope) ← inScope {} (functionDeclaration g context)
    return .block (blockOf scope [read])
  g.statement context

def branch (g : Productions) (context : Context) : Reading Stmt := do
  let test ← parenthesized g context
  let yes ← branchBody g context
  if ← acceptWord "else" then return .branch test yes (← branchBody g context)
  return .branch test yes .empty

def loopContext (context : Context) : Context := { context with inLoop := true, breakable := true }

/-- The head of a loop, after its start, and its body. -/
def countingLoop (g : Productions) (context : Context) (start : Stmt) : Reading (List (Name × Declaration) → Stmt) := do
  expectMark ";"
  let test ← if ← atMark ";" then pure none else some <$> g.expression context
  expectMark ";"
  let step ← if ← atMark ")" then pure none else some <$> g.expression context
  expectMark ")"
  let body ← g.statement (loopContext context)
  return fun lexicals => .for lexicals start test step body

/-- A loop over keys or items, after its target. -/
def collectionLoop (g : Productions) (context : Context) (target : LoopTarget) :
    Reading (List (Name × Declaration) → Stmt) := do
  let overKeys ← acceptWord "in"
  if !overKeys then expectWord "of"
  let subject ← if overKeys then g.expression context else g.assignment context
  expectMark ")"
  let body ← g.statement (loopContext context)
  return fun _ => if overKeys then .forKeys target subject body else .forItems target subject body

def atCollection : Reading Bool := return (← atWord "in") || (← atWord "of")

def loopHead (g : Productions) (context : Context) : Reading (List (Name × Declaration) → Stmt) := do
  let head := { context with allowsIn := false }
  if ← atMark ";" then return ← countingLoop g context .empty
  match declarationKind? context.strict (← get).tokens with
  | some kind =>
    skip
    let word ← boundName context.strict
    declareName kind word
    if ← atCollection then return ← collectionLoop g context (.declare kind word)
    countingLoop g context (.declare kind (← declaratorsFrom g head kind word))
  | none =>
    let start ← g.expression head
    if ← atCollection then
      checkTarget context.strict start
      return ← collectionLoop g context (.assign start)
    countingLoop g context (.expression start)

def forLoop (g : Productions) (context : Context) : Reading Stmt := do
  expectMark "("
  let (build, scope) ← inScope {} (loopHead g context)
  return build scope.lexicals.reverse

def whileLoop (g : Productions) (context : Context) : Reading Stmt := do
  let test ← parenthesized g context
  return .while test (← g.statement (loopContext context))

def doLoop (g : Productions) (context : Context) : Reading Stmt := do
  let body ← g.statement (loopContext context)
  expectWord "while"
  let test ← parenthesized g context
  let _ ← acceptMark ";"
  return .doWhile body test

/-- The label of a jump, which stands on the same line. -/
def jumpLabel : Reading (Option Name) := do
  if ← atBreak then return none
  match ← next? with
  | some ⟨.word word _, _⟩ =>
    skip
    return some word
  | _ => return none

def breakJump (context : Context) : Reading Stmt := do
  let label ← jumpLabel
  match label with
  | some word => if !(context.labels.any (·.1 == word)) then fault "break/continue label not found"
  | none => if !context.breakable then fault "break must be inside loop or switch"
  endStatement
  return .break label

def continueJump (context : Context) : Reading Stmt := do
  let label ← jumpLabel
  match label with
  | some word =>
    if !(context.labels.any fun entry => entry.1 == word && entry.2) then fault "break/continue label not found"
  | none => if !context.inLoop then fault "continue must be inside loop"
  endStatement
  return .continue label

def returnJump (g : Productions) (context : Context) : Reading Stmt := do
  if !context.inFunction then fault "return not in a function"
  if (← atBreak) || (← atMark ";") || (← atMark "\x7d") then
    endStatement
    return .return none
  let value ← g.expression context
  endStatement
  return .return (some value)

def throwJump (g : Productions) (context : Context) : Reading Stmt := do
  if ← atBreak then fault "line terminator not allowed after throw"
  let value ← g.expression context
  endStatement
  return .throw value

def clause (g : Productions) (context : Context) (sawDefault : Bool) : Reading (Clause × Bool) := do
  let isDefault ← acceptWord "default"
  if isDefault && sawDefault then fault "duplicate default"
  let test ← if isDefault then pure none
    else do
      expectWord "case"
      some <$> g.expression context
  expectMark ":"
  let found ← repeated (fun done => do
    if (← atMark "\x7d") || (← atWord "case") || (← atWord "default") then return (done, false)
    return ((← listStatement g context) :: done, true)) []
  return (.mk test found.reverse, sawDefault || isDefault)

def switchStatement (g : Productions) (context : Context) : Reading Stmt := do
  let subject ← parenthesized g context
  expectMark "\x7b"
  let inner := { context with breakable := true }
  let ((found, _), scope) ← inScope {} (repeated (fun (done, sawDefault) => do
    if ← atMark "\x7d" then return ((done, sawDefault), false)
    let (read, sawDefault) ← clause g inner sawDefault
    return ((read :: done, sawDefault), true)) ([], false))
  expectMark "\x7d"
  return .switch subject scope.lexicals.reverse scope.functions found.reverse

/-- The handler after its word. -/
def handler (g : Productions) (context : Context) : Reading Handler := do
  if ← acceptMark "(" then
    let word ← boundName context.strict
    expectMark ")"
    return .mk (some word) (← block g context { caught := [word] })
  return .mk none (← block g context {})

def tryStatement (g : Productions) (context : Context) : Reading Stmt := do
  let body ← block g context {}
  let handled ← if ← acceptWord "catch" then some <$> handler g context else pure none
  let cleanup ← if ← acceptWord "finally" then some <$> block g context {} else pure none
  if handled.isNone && cleanup.isNone then fault "expecting catch or finally"
  return .try body handled cleanup

/-- The labels at the front of a text end at a loop. -/
def labelsLoop : List Lexeme → Bool
  | ⟨.word _ _, _⟩ :: ⟨.mark ":", _⟩ :: rest => labelsLoop rest
  | ⟨token, _⟩ :: _ => isWord "for" token || isWord "while" token || isWord "do" token
  | [] => false

def labelled (g : Productions) (context : Context) (word : Name) : Reading Stmt := do
  checkBound context.strict word
  if context.labels.any (·.1 == word) then fault "duplicate label name"
  let inner := { context with labels := (word, labelsLoop (← get).tokens) :: context.labels }
  if ← acceptIf (!context.strict) (isWord "function") then functionDeclaration g context
  else return .labelled word (← g.statement inner)

/-- A statement that starts with a word of its own. -/
def wordStatement? (g : Productions) (context : Context) (token : Token) : Option (Reading Stmt) :=
  if isWord "var" token then some (declaration g context .variable)
  else if isWord "if" token then some (branch g context)
  else if isWord "for" token then some (forLoop g context)
  else if isWord "while" token then some (whileLoop g context)
  else if isWord "do" token then some (doLoop g context)
  else if isWord "break" token then some (breakJump context)
  else if isWord "continue" token then some (continueJump context)
  else if isWord "return" token then some (returnJump g context)
  else if isWord "throw" token then some (throwJump g context)
  else if isWord "switch" token then some (switchStatement g context)
  else if isWord "try" token then some (tryStatement g context)
  else if isWord "debugger" token then some do
    endStatement
    return .empty
  else if isWord "with" token then some do
    if context.strict then fault "invalid keyword: with"
    let subject ← parenthesized g context
    return .within subject (← g.statement context)
  else none

def expressionStatement (g : Productions) (context : Context) : Reading Stmt := do
  if (← atWord "function") || (← atWord "class") then unexpected
  let value ← g.expression context
  endStatement
  return .expression value

def labelOf? (tokens : List Lexeme) : Option Name :=
  match tokens with
  | ⟨.word word _, _⟩ :: ⟨.mark ":", _⟩ :: _ => some word
  | _ => none

def statement (g : Productions) (context : Context) : Reading Stmt := do
  match ← next? with
  | none => unexpected
  | some ⟨token, _⟩ =>
    if isMark "\x7b" token then return .block (← block g context {})
    if ← acceptMark ";" then return .empty
    match wordStatement? g context token with
    | some reading =>
      skip
      reading
    | none =>
      match labelOf? (← get).tokens with
      | some word =>
        skip
        skip
        labelled g context word
      | none => expressionStatement g context

/-! Whole programs -/

def tooDeep {α : Type} : Reading α := fault "nested too deeply"

def productions : Nat → Productions
  | 0 =>
    { expression := fun _ => tooDeep, assignment := fun _ => tooDeep, unary := fun _ => tooDeep,
      power := fun _ => tooDeep, construct := fun _ => tooDeep, statement := fun _ => tooDeep,
      function := fun _ _ _ _ => tooDeep, arrow := fun _ => tooDeep }
  | level + 1 =>
    let g := productions level
    { expression := expression g, assignment := assignment g, unary := unary g, power := power g,
      construct := construct g, statement := statement g, function := function listStatement g,
      arrow := arrow listStatement g }

def wholeProgram (strict : Bool) : Reading Program := do
  let tokens := (← get).tokens
  let context : Context := { strict := strict || asksStrictness tokens }
  let read := statements (listStatement (productions (tokens.length + 2)) context)
  let (read, scope) ← inScope { isFunction := true } read
  if (← next?).isSome then unexpected
  return ⟨scope.hoisted.reverse, blockOf scope read, 2 * tokens.length + 16⟩

end Grammar

/-- Reads a program that is strict throughout, or only where it says so. -/
def Program.read (strict : Bool) (text : List Char) : Except SyntaxFault Program := do
  let (program, _) ← (Grammar.wholeProgram strict).run { tokens := ← Token.tokens text }
  return program

/-- The program that defines a function with the text as its body. -/
def functionText (text : List Char) : List Char :=
  "(function anonymous(\n) \x7b\n".toList ++ text ++ "\n\x7d)".toList

end ScriptedTask.Script
