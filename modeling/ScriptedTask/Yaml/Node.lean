import ScriptedTask.Yaml.Token

/-! The nodes of a YAML text. A text holds one document. Where a node may be left out, an empty
plain scalar stands for it. -/

namespace ScriptedTask.Yaml

inductive Node where
  | scalar (text : String) (plain : Bool)
  | sequence (items : List Node)
  | mapping (members : List (Node × Node))

/-- A reader takes the tokens that are left and returns what it read with the tokens after it. -/
abbrev TokenReader (α : Type) := List Token → Option (α × List Token)

namespace Node

def empty : Node := .scalar "" true

instance : Inhabited Node := ⟨empty⟩

/-- A node, or the empty one before any of the tokens `stops`. -/
def orEmpty (node : TokenReader Node) (stops : List Token) : TokenReader Node := fun tokens =>
  match tokens with
  | token :: _ => if stops.contains token then some (empty, tokens) else node tokens
  | [] => some (empty, tokens)

/-- The items of a block sequence after its start; `done` are those read, last first. -/
def blockItems (node : TokenReader Node) : Nat → List Node → TokenReader (List Node)
  | 0, _, _ => none
  | fuel + 1, done, tokens =>
    match tokens with
    | .blockEntry :: rest => do
      let (item, rest) ← orEmpty node [.blockEntry, .blockEnd] rest
      blockItems node fuel (item :: done) rest
    | .blockEnd :: rest => some (done.reverse, rest)
    | _ => none

/-- The items of a sequence that is indented no deeper than the mapping around it. -/
def plainItems (node : TokenReader Node) : Nat → List Node → TokenReader (List Node)
  | 0, _, _ => none
  | fuel + 1, done, tokens =>
    match tokens with
    | .blockEntry :: rest => do
      let (item, rest) ← orEmpty node [.blockEntry, .key, .value, .blockEnd] rest
      plainItems node fuel (item :: done) rest
    | _ => some (done.reverse, tokens)

/-- The value after a key, if there is one. -/
def valueAfter (node : TokenReader Node) (stops : List Token) : TokenReader Node := fun tokens =>
  match tokens with
  | .value :: rest => orEmpty node stops rest
  | _ => some (empty, tokens)

/-- The members of a block mapping after its start. -/
def blockMembers (node : TokenReader Node) : Nat → List (Node × Node) → TokenReader (List (Node × Node))
  | 0, _, _ => none
  | fuel + 1, done, tokens =>
    match tokens with
    | .key :: rest => do
      let (name, rest) ← orEmpty node [.key, .value, .blockEnd] rest
      let (value, rest) ← valueAfter node [.key, .value, .blockEnd] rest
      blockMembers node fuel ((name, value) :: done) rest
    | .blockEnd :: rest => some (done.reverse, rest)
    | _ => none

/-- Past the comma between two entries of a flow collection. -/
def separator (isFirst : Bool) (tokens : List Token) : Option (List Token) :=
  match isFirst, tokens with
  | true, tokens => some tokens
  | false, .flowEntry :: rest => some rest
  | false, _ => none

/-- An item of a flow sequence; a key in it makes a mapping of one member. -/
def flowItem (node : TokenReader Node) : TokenReader Node := fun tokens =>
  match tokens with
  | .key :: rest => do
    let (name, rest) ← orEmpty node [.value, .flowEntry, .flowSequenceEnd] rest
    let (value, rest) ← valueAfter node [.flowEntry, .flowSequenceEnd] rest
    return (.mapping [(name, value)], rest)
  | _ => node tokens

/-- The items of a flow sequence after its bracket. A comma may come after the last one. -/
def flowItems (node : TokenReader Node) : Nat → List Node → TokenReader (List Node)
  | 0, _, _ => none
  | fuel + 1, done, tokens =>
    match tokens with
    | .flowSequenceEnd :: rest => some (done.reverse, rest)
    | _ => do
      match ← separator done.isEmpty tokens with
      | .flowSequenceEnd :: rest => some (done.reverse, rest)
      | tokens =>
        let (item, rest) ← flowItem node tokens
        flowItems node fuel (item :: done) rest

/-- A member of a flow mapping; a node that no colon follows is a key without a value. -/
def flowMember (node : TokenReader Node) : TokenReader (Node × Node) := fun tokens =>
  match tokens with
  | .key :: rest => do
    let (name, rest) ← orEmpty node [.value, .flowEntry, .flowMappingEnd] rest
    let (value, rest) ← valueAfter node [.flowEntry, .flowMappingEnd] rest
    return ((name, value), rest)
  | _ => (node tokens).map fun (name, rest) => ((name, empty), rest)

/-- The members of a flow mapping after its brace. -/
def flowMembers (node : TokenReader Node) : Nat → List (Node × Node) → TokenReader (List (Node × Node))
  | 0, _, _ => none
  | fuel + 1, done, tokens =>
    match tokens with
    | .flowMappingEnd :: rest => some (done.reverse, rest)
    | _ => do
      match ← separator done.isEmpty tokens with
      | .flowMappingEnd :: rest => some (done.reverse, rest)
      | tokens =>
        let (member, rest) ← flowMember node tokens
        flowMembers node fuel (member :: done) rest

def sequenceOf (result : Option (List Node × List Token)) : Option (Node × List Token) :=
  result.map fun (items, rest) => (.sequence items, rest)

def mappingOf (result : Option (List (Node × Node) × List Token)) : Option (Node × List Token) :=
  result.map fun (members, rest) => (.mapping members, rest)

/-- Which collections a node may be, besides flow collections. -/
inductive Setting where
  | flow
  | block
  /-- In a block mapping, where a sequence need not be indented. -/
  | member
deriving DecidableEq

/-- Reads a node. `fuel` bounds the nesting. -/
def read : Nat → Setting → TokenReader Node
  | 0, _, _ => none
  | fuel + 1, setting, tokens =>
    match tokens with
    | .scalar text plain :: rest => some (.scalar text plain, rest)
    | .flowSequence :: rest => sequenceOf (flowItems (read fuel .flow) (rest.length + 1) [] rest)
    | .flowMapping :: rest => mappingOf (flowMembers (read fuel .flow) (rest.length + 1) [] rest)
    | .blockSequence :: rest =>
      if setting = .flow then none
      else sequenceOf (blockItems (read fuel .block) (rest.length + 1) [] rest)
    | .blockMapping :: rest =>
      if setting = .flow then none
      else mappingOf (blockMembers (read fuel .member) (rest.length + 1) [] rest)
    | .blockEntry :: _ =>
      if setting = .member then sequenceOf (plainItems (read fuel .block) (tokens.length + 1) [] tokens)
      else none
    | _ => none

/-- The document of a text; a text without any stands for the empty node. -/
def ofTokens? (tokens : List Token) : Option Node := do
  let node := read (tokens.length + 1)
  let (document, rest) ← match tokens with
    | [] => some (empty, [])
    | .documentStart :: rest => orEmpty (node .block) [.documentStart, .documentEnd] rest
    | _ => node .block tokens
  if rest.all (· = .documentEnd) then some document else none

def ofText? (text : String) : Option Node := tokens? text >>= ofTokens?

end Node
end ScriptedTask.Yaml
