import ScriptedTask.Script.Builtin.Basic
import ScriptedTask.Script.Interchange

/-! Errors, and JSON text inside scripts. -/

namespace ScriptedTask.Script

open Text (Units)

namespace Eval

/-! Errors -/

def makeError (parent : Nat) (invocation : Invocation) : Eval Value := do
  let id ← newObject { kind := .error, parent := some parent }
  match invocation.given? 0 with
  | some message =>
    let text ← toText message
    change fun heap => heap.changeObject id fun object => object.put messageKey (.hidden (.text text))
  | none => pure ()
  match invocation.argument 1 with
  | .object options =>
    if ← hasProperty options (property "cause") then
      let cause ← get (.object options) (property "cause")
      change fun heap => heap.changeObject id fun object => object.put (property "cause") (.hidden cause)
  | _ => pure ()
  return .object id

/-- The text of a property, or a default for one that is not there. -/
def textOr (value : Value) (key : Units) (default : String) : Eval Units := do
  match ← get value key with
  | .undefined => return Units.ofAscii default
  | other => toText other

def errorText (invocation : Invocation) : Eval Value := do
  if !invocation.this.isObject then raiseType "not an object"
  let name ← textOr invocation.this (property "name") "Error"
  let message ← textOr invocation.this messageKey ""
  if name.isEmpty then return .text message
  if message.isEmpty then return .text name
  return .text (name ++ Units.ofAscii ": " ++ message)

/-- The kinds of errors with the parents of their instances. -/
def errorKinds : List (String × Nat) := [
  ("Error", Place.errorParent), ("TypeError", Place.typeErrorParent), ("RangeError", Place.rangeErrorParent),
  ("ReferenceError", Place.referenceErrorParent), ("SyntaxError", Place.syntaxErrorParent),
  ("EvalError", Place.evalErrorParent), ("URIError", Place.uriErrorParent),
  ("InternalError", Place.internalErrorParent)]

def errorConstructors : List Builtin :=
  errorKinds.map fun (name, parent) => ⟨Place.globals, name, 1, makeError parent, some parent⟩

/-! JSON text -/

/-- Revised by a function from the inside out; what it leaves undefined is removed. -/
def revive (function : Value) : Nat → Value → Units → Eval Value
  | 0, _, _ => raiseRange "Maximum call stack size exceeded"
  | fuel + 1, holder, key => do
    let value ← get holder key
    match value with
    | .object id =>
      let object ← look fun heap => heap.object id
      for name in object.ownKeys.filter object.isEnumerable do
        match ← revive function fuel value name with
        | .undefined => let _ ← remove id name
        | revised => define id name revised
    | _ => pure ()
    call function holder [.text key, value]

def jsonParse (invocation : Invocation) : Eval Value := do
  let text ← toText (invocation.argument 0)
  spend (text.size / 16)
  let value ← parse text
  let function := invocation.argument 1
  if ← look fun heap => heap.isFunction function then
    let holder ← newObject { parent := some Place.objectParent }
    define holder #[] value
    revive function deepestText (.object holder) #[]
  else return value

/-- The texts of a list of keys; other items are left out. -/
def chosenKeys (list : Value) : Eval (List Units) := do
  let items ← listed list
  let texts ← items.filterMapM fun item => do
    match item with
    | .text units => return some units
    | .number number => return some (Units.encode number.text).toArray
    | .object id =>
      match (← look fun heap => heap.object id).kind with
      | .boxed (.text _) | .boxed (.number _) => some <$> toText item
      | _ => return none
    | _ => return none
  return texts.eraseDups

/-- An indentation: up to ten blanks, or the start of a text. -/
def indentation (value : Value) : Eval Units := do
  match ← unboxed value with
  | .number number => return Array.replicate (min (clamp number) 10).toNat 32
  | .text units => return units.take 10
  | _ => return #[]

def textStyle (invocation : Invocation) : Eval TextStyle := do
  let replace := invocation.argument 1
  let heap ← heap
  let indent ← indentation (invocation.argument 2)
  match replace with
  | .object id =>
    if heap.isFunction replace then return { indent, replace := some replace }
    match (heap.object id).kind with
    | .array .. => return { indent, keys := some (← chosenKeys replace) }
    | _ => return { indent }
  | _ => return { indent }

def jsonStringify (invocation : Invocation) : Eval Value := do
  match ← stringify (← textStyle invocation) (invocation.argument 0) with
  | some text =>
    checkText text.size
    return .text text
  | none => return .undefined

def dataBuiltins : List Builtin := [
  ⟨Place.errorParent, "toString", 0, errorText, none⟩,
  ⟨Place.json, "parse", 2, jsonParse, none⟩,
  ⟨Place.json, "stringify", 3, jsonStringify, none⟩]

end Eval
end ScriptedTask.Script
