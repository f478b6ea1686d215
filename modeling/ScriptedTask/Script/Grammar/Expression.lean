import ScriptedTask.Script.Grammar.Basic

/-! Expressions, from the tightest to the loosest. -/

namespace ScriptedTask.Script.Grammar

open Text (Units)

/-- An expression that can be assigned to. -/
def checkTarget (strict : Bool) : Expr → Reading Unit
  | .name word => if strict && isRestricted word then fault "invalid lvalue in strict mode" else return
  | .member _ _ false | .index _ _ false => return
  | _ => fault "invalid assignment left-hand side"

/-- Any word, reserved or not, after a point or as a key. -/
def anyWord : Reading Units := do
  match ← next? with
  | some ⟨.word found _, _⟩ =>
    skip
    return found
  | _ => unexpected

/-! Literals -/

def listItem (g : Productions) (context : Context) : Reading Item := do
  if ← acceptMark "..." then return .spread (← g.assignment context)
  return .value (← g.assignment context)

/-- The arguments of a call, after the opening parenthesis. -/
def arguments (g : Productions) (context : Context) : Reading (List Item) := do
  if ← acceptMark ")" then return []
  let found ← repeated (fun done => do
    let item ← listItem g context
    if ← acceptMark "," then return (item :: done, !(← acceptMark ")"))
    expectMark ")"
    return (item :: done, false)) []
  return found.reverse

/-- The items of an array after its bracket. A comma without an item before it leaves a hole. -/
def arrayItems (g : Productions) (context : Context) : Reading (List Item) := do
  let found ← repeated (fun done => do
    if ← acceptMark "]" then return (done, false)
    if ← acceptMark "," then return (Item.hole :: done, true)
    let item ← listItem g context
    if ← acceptMark "," then return (item :: done, true)
    expectMark "]"
    return (item :: done, false)) []
  return found.reverse

/-- The key of a member, and the word it is if it could stand for a variable. -/
def key (g : Productions) (context : Context) : Reading (Key × Option Name) := do
  match ← next? with
  | some ⟨.word found _, _⟩ =>
    skip
    return (.fixed found, some found)
  | some ⟨.string found _ legacy, _⟩ =>
    if legacy && context.strict then fault "octal escape sequences are not allowed in strict mode"
    skip
    return (.fixed found, none)
  | some ⟨.number found legacy, _⟩ =>
    if legacy && context.strict then fault "octal literals are not allowed in strict mode"
    skip
    return (.fixed (Units.encode found.text).toArray, none)
  | some ⟨.mark "[", _⟩ =>
    skip
    let found ← g.assignment context
    expectMark "]"
    return (.computed found, none)
  | _ => unexpected

def keyName : Key → Name
  | .fixed name => name
  | .computed _ => #[]

/-- The member after a word that announces a getter or a setter. -/
def accessor (g : Productions) (context : Context) (isGetter : Bool) : Reading Member := do
  let (key, _) ← key g context
  let code ← g.function context .method (keyName key) false
  if isGetter then return .getter key code else return .setter key code

def atMemberEnd : Reading Bool :=
  return (← atMark ":") || (← atMark ",") || (← atMark "(") || (← atMark "\x7d")

/-- A member after its key. -/
def keyedMember (g : Productions) (context : Context) (key : Key) (word : Option Name) : Reading Member := do
  if ← acceptMark ":" then
    let value ← g.assignment context
    match key with
    | .fixed text => if text == name "__proto__" then return .parent value else return .value key (value.named text)
    | .computed _ => return .value key value
  if ← atMark "(" then return .value key (.function (← g.function context .method (keyName key) false))
  match word with
  | some found =>
    if isReserved context.strict found then unexpected
    if found == name "arguments" then modify fun state => { state with usesArguments := true }
    return .value key (.name found)
  | none => unexpected

def member (g : Productions) (context : Context) : Reading Member := do
  if ← acceptMark "..." then return .spread (← g.assignment context)
  let isGetter ← atWord "get"
  let isSetter ← atWord "set"
  let (key, word) ← key g context
  if (isGetter || isSetter) && !(← atMemberEnd) then accessor g context isGetter
  else keyedMember g context key word

def isParent : Member → Bool
  | .parent _ => true
  | _ => false

def objectMembers (g : Productions) (context : Context) : Reading (List Member) := do
  let found ← repeated (fun done => do
    if ← acceptMark "\x7d" then return (done, false)
    let read ← member g context
    if isParent read && done.any isParent then fault "duplicate __proto__ property name"
    if ← acceptMark "," then return (read :: done, true)
    expectMark "\x7d"
    return (read :: done, false)) []
  return found.reverse

/-- The substitutions of a template, after its first piece. -/
def templateParts (g : Productions) (context : Context) : Reading (List TemplatePart) := do
  let found ← repeated (fun done => do
    let value ← g.expression context
    match ← next? with
    | some ⟨.piece text false last, _⟩ =>
      skip
      return (TemplatePart.mk value text :: done, !last)
    | _ => unexpected) []
  return found.reverse

def namedValue (g : Productions) (context : Context) (word : Name) : Reading Expr := do
  if word == name "function" then
    let bindsItself := !(← atMark "(")
    let called ← if bindsItself then anyName context.strict else pure #[]
    return .function (← g.function context .ordinary called bindsItself)
  if word == name "this" then return .this
  if word == name "null" then return .literal .null
  if word == name "true" then return .literal (.bool true)
  if word == name "false" then return .literal (.bool false)
  if isReserved context.strict word then unexpected
  if word == name "arguments" then modify fun state => { state with usesArguments := true }
  return .name word

def primary (g : Productions) (context : Context) : Reading Expr := do
  let context := { context with allowsIn := true }
  match ← next? with
  | none => unexpected
  | some ⟨token, _⟩ =>
    skip
    match token with
    | .number value legacy =>
      if legacy && context.strict then fault "octal literals are not allowed in strict mode"
      return .literal (.number value)
    | .string text _ legacy =>
      if legacy && context.strict then fault "octal escape sequences are not allowed in strict mode"
      return .literal (.text text)
    | .piece text true true => return .template text []
    | .piece text true false => return .template text (← templateParts g context)
    | .piece .. => unexpected
    | .word word escaped =>
      if escaped && isReserved context.strict word then unexpected
      namedValue g context word
    | .mark "(" =>
      let inner ← g.expression context
      expectMark ")"
      return inner
    | .mark "[" => return .array (← arrayItems g context)
    | .mark "\x7b" => return .object (← objectMembers g context)
    | .mark _ => unexpected

/-! Calls and members -/

/-- A call or member chain so far, and whether a link of it is optional. -/
structure Chain where
  inner : Expr
  hasOptional : Bool := false

def Chain.expr (chain : Chain) : Expr := if chain.hasOptional then .chain chain.inner else chain.inner

/-- One more link. Calls are left alone if `calls` is not set. -/
def link (g : Productions) (context : Context) (calls : Bool) (chain : Chain) : Reading (Chain × Bool) := do
  let context := { context with allowsIn := true }
  if ← acceptMark "." then return ({ chain with inner := .member chain.inner (← anyWord) false }, true)
  if ← acceptMark "[" then
    let key ← g.expression context
    expectMark "]"
    return ({ chain with inner := .index chain.inner key false }, true)
  if ← acceptIf calls (isMark "(") then
    return ({ chain with inner := .call chain.inner (← arguments g context) false }, true)
  if ← acceptIf calls (isMark "?.") then
    if ← acceptMark "(" then return (⟨.call chain.inner (← arguments g context) true, true⟩, true)
    if ← acceptMark "[" then
      let key ← g.expression context
      expectMark "]"
      return (⟨.index chain.inner key true, true⟩, true)
    return (⟨.member chain.inner (← anyWord) true, true⟩, true)
  if ← atToken (fun | .piece _ first _ => first | _ => false) then unexpected
  return (chain, false)

/-- A construction after its word. -/
def construct (g : Productions) (context : Context) : Reading Expr := do
  let callee ← if ← acceptWord "new" then g.construct context else primary g context
  let chain ← repeated (link g context false) ⟨callee, false⟩
  if ← atMark "?." then unexpected
  if ← acceptMark "(" then return .construct chain.inner (← arguments g { context with allowsIn := true })
  return .construct chain.inner []

def leftSide (g : Productions) (context : Context) : Reading Expr := do
  let first ← if ← acceptWord "new" then construct g context else primary g context
  return (← repeated (link g context true) ⟨first, false⟩).expr

/-! Operators -/

def stepOf? : Token → Option Int
  | .mark "++" => some 1
  | .mark "--" => some (-1)
  | _ => none

def nextStep? : Reading (Option Int) := return (← next?).bind fun found => stepOf? found.token

/-- An expression with a step before or after it, or none. -/
def stepped (g : Productions) (context : Context) : Reading Expr := do
  match ← nextStep? with
  | some step =>
    skip
    let target ← g.unary context
    checkTarget context.strict target
    return .update true step target
  | none =>
    let target ← leftSide g context
    match ← nextStep? with
    | some step =>
      if ← atBreak then return target
      skip
      checkTarget context.strict target
      return .update false step target
    | none => return target

inductive Prefixed where
  | operator (op : UnaryOp)
  | delete

def prefixed? : Token → Option Prefixed
  | .mark "-" => some (.operator .minus)
  | .mark "+" => some (.operator .plus)
  | .mark "!" => some (.operator .not)
  | .mark "~" => some (.operator .complement)
  | token =>
    if isWord "typeof" token then some (.operator .typeOf)
    else if isWord "void" token then some (.operator .void)
    else if isWord "delete" token then some .delete
    else none

def nextPrefixed? : Reading (Option Prefixed) := return (← next?).bind fun found => prefixed? found.token

def unary (g : Productions) (context : Context) : Reading Expr := do
  match ← nextPrefixed? with
  | some (.operator op) =>
    skip
    return .unary op (← g.unary context)
  | some .delete =>
    skip
    let operand ← g.unary context
    match operand, context.strict with
    | .name _, true => fault "cannot delete a direct reference in strict mode"
    | _, _ => return .delete operand
  | none => stepped g context

/-- Powers group to the right; a signed base needs parentheses. -/
def power (g : Productions) (context : Context) : Reading Expr := do
  match ← nextPrefixed? with
  | some _ =>
    let base ← unary g context
    if ← atMark "**" then unexpected
    return base
  | none =>
    let base ← stepped g context
    if ← acceptMark "**" then return .binary .pow base (← g.power context)
    return base

/-- The operators of one level. The word `in` is told from the marks. -/
def levels : List (List (String × BinaryOp)) := [
  [("|", .bitOr)], [("^", .bitXor)], [("&", .bitAnd)],
  [("==", .looseEqual), ("!=", .looseUnequal), ("===", .equal), ("!==", .unequal)],
  [("<", .less), (">", .greater), ("<=", .atMost), (">=", .atLeast), ("instanceof", .instanceOf), ("in", .inside)],
  [("<<", .shiftLeft), (">>", .shiftRight), (">>>", .shiftRightZero)],
  [("+", .add), ("-", .sub)], [("*", .mul), ("/", .div), ("%", .mod)]]

def operatorOf? (context : Context) (level : List (String × BinaryOp)) (token : Token) : Option BinaryOp :=
  (level.find? fun entry => (isMark entry.1 token || isWord entry.1 token) &&
    (context.allowsIn || entry.1 ≠ "in")).map Prod.snd

/-- Operators of a level group to the left. -/
def binary (g : Productions) (context : Context) : List (List (String × BinaryOp)) → Reading Expr
  | [] => power g context
  | level :: tighter => do
    let first ← binary g context tighter
    repeated (fun left => do
      match (← next?).bind fun found => operatorOf? context level found.token with
      | some op =>
        skip
        return (.binary op left (← binary g context tighter), true)
      | none => return (left, false)) first

def logicalAnd (g : Productions) (context : Context) : Reading Expr := do
  let first ← binary g context levels
  repeated (fun left => do
    if ← acceptMark "&&" then return (.logical .and left (← binary g context levels), true)
    return (left, false)) first

def isLogical : Expr → Bool
  | .logical .. => true
  | _ => false

/-- Alternatives. The default operator does not mix with the other two. -/
def logicalOr (g : Productions) (context : Context) : Reading Expr := do
  let startsGrouped ← atMark "("
  let first ← logicalAnd g context
  if (← atMark "??") && (startsGrouped || !isLogical first) then
    repeated (fun left => do
      if ← acceptMark "??" then return (.logical .coalesce left (← binary g context levels), true)
      if (← atMark "&&") || (← atMark "||") then unexpected
      return (left, false)) first
  else
    let found ← repeated (fun left => do
      if ← acceptMark "||" then return (.logical .or left (← logicalAnd g context), true)
      return (left, false)) first
    if ← atMark "??" then unexpected
    return found

def conditional (g : Productions) (context : Context) : Reading Expr := do
  let test ← logicalOr g context
  if ← acceptMark "?" then
    let yes ← g.assignment { context with allowsIn := true }
    expectMark ":"
    return .conditional test yes (← g.assignment context)
  return test

def assignOp? : Token → Option AssignOp
  | .mark "=" => some .replace
  | .mark "+=" => some (.combine .add)
  | .mark "-=" => some (.combine .sub)
  | .mark "*=" => some (.combine .mul)
  | .mark "/=" => some (.combine .div)
  | .mark "%=" => some (.combine .mod)
  | .mark "**=" => some (.combine .pow)
  | .mark "<<=" => some (.combine .shiftLeft)
  | .mark ">>=" => some (.combine .shiftRight)
  | .mark ">>>=" => some (.combine .shiftRightZero)
  | .mark "&=" => some (.combine .bitAnd)
  | .mark "|=" => some (.combine .bitOr)
  | .mark "^=" => some (.combine .bitXor)
  | .mark "&&=" => some (.guarded .and)
  | .mark "||=" => some (.guarded .or)
  | .mark "??=" => some (.guarded .coalesce)
  | _ => none

/-- The tokens after the bracket that closes what `depth` open brackets opened. -/
def afterClosing : Nat → List Lexeme → List Lexeme
  | _, [] => []
  | depth, ⟨.mark mark, _⟩ :: rest =>
    if mark ∈ ["(", "[", "\x7b"] then afterClosing (depth + 1) rest
    else if mark ∈ [")", "]", "\x7d"] then
      match depth with
      | 0 => []
      | 1 => rest
      | inner + 1 => afterClosing inner rest
    else afterClosing depth rest
  | depth, _ :: rest => afterClosing depth rest

def startsArrow : List Lexeme → Bool
  | ⟨.mark "=>", afterBreak⟩ :: _ => !afterBreak
  | _ => false

/-- An arrow function comes next: a name or parentheses, and then the arrow. -/
def atArrow (strict : Bool) : Reading Bool := do
  match (← get).tokens with
  | ⟨.word word _, _⟩ :: rest => return !isReserved strict word && startsArrow rest
  | ⟨.mark "(", _⟩ :: rest => return startsArrow (afterClosing 1 rest)
  | _ => return false

def targetName : Expr → Name
  | .name word => word
  | _ => #[]

def assignment (g : Productions) (context : Context) : Reading Expr := do
  if ← atArrow context.strict then return .function (← g.arrow context)
  let target ← conditional g context
  match (← next?).bind fun found => assignOp? found.token with
  | some op =>
    skip
    checkTarget context.strict target
    return .assign op target ((← g.assignment context).named (targetName target))
  | none => return target

def expression (g : Productions) (context : Context) : Reading Expr := do
  let first ← assignment g context
  repeated (fun left => do
    if ← acceptMark "," then return (.sequence left (← assignment g context), true)
    return (left, false)) first

end ScriptedTask.Script.Grammar
