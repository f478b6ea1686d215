/-! Why a collaborator failed: a text for the failure itself, and the texts of what caused it,
outermost first. -/

namespace ScriptedTask

structure Failure where
  message : String
  causes : List String := []
deriving DecidableEq

namespace Failure

def chain (failure : Failure) : List String := failure.message :: failure.causes

/-- The failure with everything that caused it. -/
def text (failure : Failure) : String := String.intercalate ": " failure.chain

/-- The same failure under a wider description. -/
def within (failure : Failure) (context : String) : Failure := ⟨context, failure.chain⟩

/-- Causes below the failure, numbered if there are several. -/
def causeLines (causes : List String) : List String :=
  match causes with
  | [cause] => ["    " ++ cause]
  | causes => causes.mapIdx fun index cause => "    " ++ toString index ++ ": " ++ cause

/-- The failure as a program tells it when it ends. -/
def report (failure : Failure) : String :=
  let heading := "Error: " ++ failure.message
  match failure.causes with
  | [] => heading
  | causes => String.intercalate "\n" (heading :: "" :: "Caused by:" :: causeLines causes)

end Failure
end ScriptedTask
