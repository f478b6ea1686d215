import ScriptedTask.Capability.Error
import ScriptedTask.Failure

/-! The access token of one invocation. It is fetched when it is first asked for and kept from
then on; a failed fetch is not kept, so the next request fetches again. -/

namespace ScriptedTask

/-- Exchanges the id of a process instance for an access token. -/
abbrev TokenSource (m : Type → Type) := String → m (Except Failure String)

structure TokenCache where
  instanceId : String := ""
  cached : Option String := none
deriving DecidableEq

namespace TokenCache

/-- The token, or why there is none; and what is kept of it. -/
def get {m : Type → Type} [Monad m] (provider : Option (TokenSource m)) (token : TokenCache) :
    m (Except CallError String × TokenCache) :=
  match token.cached, provider with
  | some text, _ => pure (.ok text, token)
  | none, none => pure (.error (.token "no token provider configured"), token)
  | none, some fetch => do
    match ← fetch token.instanceId with
    | .ok text => return (.ok text, { token with cached := some text })
    | .error failure => return (.error (.token failure.text), token)

/-- Characters that a quoted text shows by their code. -/
def isHidden (c : Char) : Bool :=
  let code := c.toNat
  code < 0x20 || (0x7F ≤ code && code < 0xA0) || code == 0xAD || (0x300 ≤ code && code ≤ 0x36F) ||
    (0x200B ≤ code && code ≤ 0x200F) || (0x2028 ≤ code && code ≤ 0x202E) ||
    (0x2060 ≤ code && code ≤ 0x206F) || (0xE000 ≤ code && code ≤ 0xF8FF) || code == 0xFEFF ||
    (0xFFF0 ≤ code && code ≤ 0xFFFB)

def showChar (c : Char) : List Char :=
  match c with
  | '"' => ['\\', '"']
  | '\\' => ['\\', '\\']
  | '\n' => ['\\', 'n']
  | '\r' => ['\\', 'r']
  | '\t' => ['\\', 't']
  | '\x00' => ['\\', '0']
  | c => if isHidden c then ['\\', 'u', '{'] ++ Nat.toDigits 16 c.toNat ++ ['}'] else [c]

def showFlag (flag : Bool) : String := if flag then "true" else "false"

/-- A description for logs. It says whether a token is kept, never which. -/
def describe (hasProvider : Bool) (token : TokenCache) : String :=
  "InvocationToken \x7b process_instance_id: \"" ++
    String.ofList (token.instanceId.toList.flatMap showChar) ++ "\", has_provider: " ++
    showFlag hasProvider ++ ", cached: " ++ showFlag token.cached.isSome ++ " \x7d"

end TokenCache
end ScriptedTask
