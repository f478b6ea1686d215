import ScriptedTask.Proofs.Script.Offered
import ScriptedTask.Proofs.Script.Rounds

/-! Scripts that pass what one capability answers on to another, as it is. -/

namespace ScriptedTask.Script

open Text (Units)

/-- A call of a method of a global. -/
def methodCall (target method : String) (arguments : List Expr) : Expr :=
  .call (.member (.name (Units.ofString target)) (Units.ofString method) false) (arguments.map .value) false

def textOfName (name : String) : Expr := .literal (.text (Units.ofString name))

/-- Where a script has a value from. -/
inductive Origin where
  | store
  | inputs

namespace Origin

def target : Origin → String
  | store => "variables"
  | inputs => "inputs"

def method : Origin → String
  | store => "read"
  | inputs => "get"

def find? : Origin → Session → String → Option Json
  | store, session => session.store.current.get?
  | inputs, session => session.inputs.inputs.get?

theorem invoke {m : Type → Type} [Monad m] (origin : Origin) (provider : Option (TokenSource m)) (session : Session)
    (name : String) : session.invoke provider ⟨origin.target, origin.method, [some (.string name)]⟩ =
      pure (.ok (origin.find? session name), session) := by
  cases origin <;> rfl

theorem known (origin : Origin) : (origin.target, origin.method) ∈ Realm.transfers := by
  cases origin <;> decide

end Origin

/-- Where a script brings a value. -/
inductive Sink where
  | store
  | outputs

namespace Sink

def target : Sink → String
  | store => "variables"
  | outputs => "outputs"

def method : Sink → String
  | store => "write"
  | outputs => "set"

def put : Sink → Session → String → Json → Session
  | store, session, name, value => { session with store := session.store.write name value }
  | outputs, session, name, value => { session with outputs := session.outputs.set name value }

theorem invoke {m : Type → Type} [Monad m] (sink : Sink) (provider : Option (TokenSource m)) (session : Session)
    (name : String) (value : Json) : session.invoke provider ⟨sink.target, sink.method, [some (.string name), some value]⟩ =
      pure (.ok none, sink.put session name value) := by
  cases sink <;> rfl

theorem known (sink : Sink) : (sink.target, sink.method) ∈ Realm.transfers := by
  cases sink <;> decide

end Sink

namespace Eval

section Reading

variable {heap : Heap} {target method : String} {holder function id : Nat} {name key : Units} {value : Value}

/-- The outermost scope binds no names. -/
def Bare (heap : Heap) : Prop := heap.scopes.getD 0 {} = {}

theorem search_few (few : (heap.object id).properties.size < 16) : search id heap = .done heap (.ok ()) := by
  have looked : look (fun heap => (heap.object id).properties.size) heap =
      .done heap (.ok (heap.object id).properties.size) := rfl
  rw [search, bind_of_done looked, Nat.div_eq_of_lt few, spend, if_neg (Nat.not_lt_zero _)]
  rfl

theorem get_own (few : (heap.object id).properties.size < 16) (own : (heap.object id).own? key = some (.plain value)) :
    get (.object id) key heap = .done heap (.ok value) := by
  have found : look (fun heap => heap.property? id key) heap = .done heap (.ok (some (.plain value))) := by
    rw [look, Heap.property?_own own]
  rw [get, getFrom, bind_of_done (search_few few), bind_of_done found]
  rfl

theorem readName_global (bare : Bare heap) (own : (heap.object Place.globals).own? name = some (.plain value)) :
    readName 0 name heap = .done heap (.ok value) := by
  have free : binding? heap 0 name = none := by
    simp [binding?, findBinding?, show heap.scopes.getD 0 {} = {} from bare]
  have found : readName? 0 name heap = .done heap (.ok (some value)) := by
    have whole : Eval.heap heap = .done heap (.ok heap) := rfl
    rw [readName?, bind_of_done whole, free]
    simp only [Heap.property?_own own]
    rfl
  rw [readName, bind_of_done found]
  rfl

/-- A method call first finds the method, and then calls it with what its arguments come to. -/
theorem expression_methodCall (offers : heap.Offers target method holder function) (bare : Bare heap) (depth : Nat)
    (arguments : List Expr) : (evaluator (depth + 3)).expression programFrame (methodCall target method arguments) heap =
      (do
        let values ← argumentValues (evaluator (depth + 2)) programFrame (arguments.map .value)
        call (.object function) (.object holder) values) heap := by
  have named : (evaluator (depth + 2)).link programFrame (.name (Units.ofString target)) heap =
      .done heap (.ok (some (.object holder))) := by
    change (some <$> readName 0 (Units.ofString target)) heap = _
    rw [map_eq_pure_bind, bind_of_done (readName_global bare offers.global)]
    rfl
  have callee : evaluateCallee (evaluator (depth + 2)) programFrame
      (.member (.name (Units.ofString target)) (Units.ofString method) false) heap =
        .done heap (.ok (some (.object holder, .object function))) := by
    rw [evaluateCallee, bind_of_done named]
    change (do return some (Value.object holder, ← get (.object holder) (Units.ofString method))) heap = _
    rw [bind_of_done (get_own offers.few offers.member)]
    rfl
  change (evaluateCall (evaluator (depth + 2)) programFrame
    (.member (.name (Units.ofString target)) (Units.ofString method) false) (arguments.map .value) false >>= fun found =>
      Pure.pure (found.getD .undefined)) heap = _
  rw [evaluateCall, bind_assoc, bind_of_done callee]
  simp

end Reading

/-! A copying script -/

/-- Hands a value to a function that takes a name and a value. -/
def handing (sink : Nat × Nat) (destination : String) (value : Value) : Eval Completion := do
  let _ ← call (.object sink.2) (.object sink.1) [.text (Units.ofString destination), value]
  return .normal

/-- What a copying script does: it calls the one function, and hands what that returns to the other. -/
def copying (origin sink : Nat × Nat) (source destination : String) : Eval Completion := do
  handing sink destination (← call (.object origin.2) (.object origin.1) [.text (Units.ofString source)])

/-- The end of a script whose statements come to this. -/
def finishing (statements : Eval Completion) : Eval Machine.Finish := do
  match ← attempt (do let _ ← statements) with
  | .ok () => return .done
  | .error thrown => return .thrown thrown (← describeThrown thrown)

end Eval

/-- The statement that takes a value from its origin to a sink. -/
def copyStatement (origin : Origin) (sink : Sink) (source destination : String) : Stmt :=
  .expression (methodCall sink.target sink.method
    [textOfName destination, methodCall origin.target origin.method [textOfName source]])

namespace Eval

section Copying

variable {heap back : Heap} {origin : Origin} {sink : Sink} {source destination : String} {giving taking : Nat × Nat}

theorem runStatements_copy (reads : heap.Offers origin.target origin.method giving.1 giving.2)
    (writes : heap.Offers sink.target sink.method taking.1 taking.2) (bare : Bare heap) (depth : Nat) :
    runStatements (evaluator (depth + 5)) programFrame [copyStatement origin sink source destination] heap =
      copying giving taking source destination heap := by
  have read := expression_methodCall reads bare depth [textOfName source]
  have written := expression_methodCall writes bare (depth + 1)
    [textOfName destination, methodCall origin.target origin.method [textOfName source]]
  have sourceText : argumentValues (evaluator (depth + 2)) programFrame [.value (textOfName source)] =
      Pure.pure [.text (Units.ofString source)] := rfl
  have arguments (rest : Expr) :
      argumentValues (evaluator (depth + 3)) programFrame [.value (textOfName destination), .value rest] = do
        return [.text (Units.ofString destination), ← (evaluator (depth + 3)).expression programFrame rest] := by
    change ((evaluator (depth + 3)).expression programFrame rest >>= fun value => Pure.pure [value]) >>= (fun others =>
      Pure.pure (Value.text (Units.ofString destination) :: others)) = _
    simp
  have statement (value : Expr) : runStatements (evaluator (depth + 5)) programFrame [.expression value] = do
      let _ ← (evaluator (depth + 4)).expression programFrame value
      return .normal := by
    change ((evaluator (depth + 4)).expression programFrame value >>= fun _ => Pure.pure Completion.normal) >>= _ = _
    rw [bind_assoc]
    rfl
  rw [copyStatement, statement, bind_congr_at written]
  simp only [List.map_cons, List.map_nil, arguments, bind_assoc, pure_bind] at read ⊢
  rw [bind_congr_at read, sourceText, pure_bind]
  rfl

theorem Asks.finishing {comp : Eval Completion} {job : Job} {next : Completion → Eval Completion}
    (asks : Asks comp heap job back next) :
    Asks (finishing comp) heap job back fun completion => finishing (next completion) :=
  ((asks.bind _).attempt).bind _

theorem asks_handing {sink : Nat × Nat} (callable : (heap.object sink.2).isFunction = true) (destination : String)
    (value : Value) : Asks (handing sink destination value) heap
      (.call sink.2 (.object sink.1) [.text (Units.ofString destination), value]) heap fun _ => Pure.pure .normal :=
  (asks_call callable _ _).bind _

theorem asks_copying {origin : Nat × Nat} (callable : (heap.object origin.2).isFunction = true) (sink : Nat × Nat)
    (source destination : String) : Asks (copying origin sink source destination) heap
      (.call origin.2 (.object origin.1) [.text (Units.ofString source)]) heap
      fun completion => handing sink destination (returnedValue completion) :=
  (asks_call callable _ _).bind _

/-- The heap when the statements of a program begin that declares nothing. -/
def cleared (heap : Heap) : Heap := heap.changeScope 0 fun _ => ⟨#[], none⟩

theorem objects_cleared (heap : Heap) : (cleared heap).objects = heap.objects := rfl

theorem bare_cleared (heap : Heap) : Bare (cleared heap) := by
  have emptied : ∀ scopes : Array Environment, (scopes.modify 0 fun _ => {}).getD 0 {} = {} := by
    intro scopes
    by_cases some : 0 < scopes.size
    · simp [some, Array.getElem_modify]
    · simp [some]
  exact emptied heap.scopes

theorem runToEnd_copy (giving taking : Nat × Nat)
    (reads : (cleared heap).Offers origin.target origin.method giving.1 giving.2)
    (writes : (cleared heap).Offers sink.target sink.method taking.1 taking.2) {program : Program} (depth : Nat)
    (body : program.body = .mk [] [] [copyStatement origin sink source destination]) (hoisted : program.hoisted = []) :
    runToEnd (evaluator (depth + 5)) program heap = finishing (copying giving taking source destination) (cleared heap) := by
  have declared : declareGlobals programFrame [] [] = Pure.pure () := by simp [declareGlobals]
  have ran : runProgram (evaluator (depth + 5)) program heap =
      (do let _ ← copying giving taking source destination) (cleared heap) := by
    simp only [runProgram, body, hoisted, declared, pure_bind]
    exact bind_congr_at (runStatements_copy reads writes (bare_cleared heap) depth) _
  exact bind_congr_at (attempt_congr_at ran) _

end Copying

end Eval

section Performing

open Eval Machine

variable {m : Type → Type} [Monad m] [LawfulMonad m] {heap : Heap} {low high : Nat} {copy : Value} {value : Json}
  {origin : Origin} {sink : Sink} {source destination : String} {giving taking : Nat × Nat} {session : Session}

theorem costs_name (silent : heap.Silent) (name : String) : Costs (toJsonAll [.text (Units.ofString name)]) heap 1 0
    fun found later => found = [some (.string name)] ∧ later.objects = heap.objects := by
  have shown : List.Forall₂ (Shows heap 0 0) [.string name] [.text (Units.ofString name)] := .cons (.string name) .nil
  simpa [Json.work] using costs_toJsonAll shown silent (by simp [Json.portable_string]) rfl

theorem costs_nameAndValue (shown : Shows heap low high value copy) (silent : heap.Silent) (portable : value.Portable)
    (name : String) : Costs (toJsonAll [.text (Units.ofString name), copy]) heap (1 + value.work) 0
      fun found later => found = [some (.string name), some value] ∧ later.objects = heap.objects := by
  have both : List.Forall₂ (Shows heap low high) [.string name, value] [.text (Units.ofString name), copy] :=
    .cons (.string name) (.cons shown .nil)
  simpa [Json.work] using costs_toJsonAll both silent (by simp [Json.portable_string, portable]) rfl

/-- A script that hands over a value from outside, and then ends, has handed over that value. -/
theorem perform_handing (settings : RunSettings) (provider : Option (TokenSource m)) (e : Evaluator) (fuel : Nat)
    (shown : Shows heap low high value copy) (portable : value.Portable)
    (writes : (heap.object taking.2).kind = .host sink.target sink.method) (silent : heap.Silent)
    (affords : heap.Affords (1 + value.work) 0) :
    (drive e (fuel + 4) [] (.script (finishing (handing taking destination copy) heap))).perform settings provider none
      session = Pure.pure (.ok (), sink.put session destination value) := by
  obtain ⟨_, sent, sends, -, rfl, -⟩ := (costs_nameAndValue shown silent portable destination).done affords
  have asks := (asks_handing (isFunction_host writes) destination copy).finishing
  have invoked := sink.invoke provider session destination value
  rw [perform_round settings provider none (fuel + 1) [] asks writes sends invoked rfl]
  rfl

/-- A script that copies a value, and has the time and the room for it, ends well and has stored that value. -/
theorem perform_copying (settings : RunSettings) (provider : Option (TokenSource m)) (e : Evaluator) (fuel : Nat)
    (giving taking : Nat × Nat) (destination : String)
    (found : origin.find? session source = some value) (portable : value.Portable)
    (reads : (heap.object giving.2).kind = .host origin.target origin.method)
    (writes : (heap.object taking.2).kind = .host sink.target sink.method) (inside : taking.2 < heap.objects.size)
    (silent : heap.Silent) (affords : heap.Affords (2 + value.work) value.room) :
    (drive e (fuel + 7) [] (.script (finishing (copying giving taking source destination) heap))).perform settings provider
      none session = Pure.pure (.ok (), sink.put session destination value) := by
  obtain ⟨_, sent, sends, spent, rfl, sentSame⟩ := (costs_name silent source).done (affords.mono (by omega) (by omega))
  have left : sent.Affords (1 + value.work) value.room := Heap.Affords.rest (affords.mono (by omega) (by omega)) spent
  obtain ⟨copy, back, returns, took, shown, kept⟩ := (costs_ofJson portable.safe sent).done (left.mono (by omega) (by omega))
  have keeps : heap.Keeps back := (Heap.Keeps.of_objects sentSame).trans kept
  have writesStill : (back.object taking.2).kind = .host sink.target sink.method := by
    rw [keeps.same _ inside]
    exact writes
  have enough : back.Affords (1 + value.work) 0 := Heap.Affords.rest (left.mono (by omega) (by omega)) took
  have asks := (asks_copying (isFunction_host reads) taking source destination).finishing
  have invoked := origin.invoke provider session source
  rw [found] at invoked
  rw [perform_round settings provider none (fuel + 4) [] asks reads sends invoked returns]
  exact perform_handing settings provider e fuel shown portable writesStill (silent.of_keeps keeps) enough

end Performing

/-- A text that is a script of one statement, which copies a value. -/
structure Copies (text : String) (origin : Origin) (sink : Sink) (source destination : String) : Prop where
  filled : Text.isBlankText text = false
  plain : nulPosition? text.toList = none
  readable : ∃ program, Program.read false (functionText text.toList) = .ok program
  whole : ∃ program, Program.read true text.toList = .ok program ∧ 5 ≤ program.depth ∧ program.hoisted = [] ∧
    program.body = .mk [] [] [copyStatement origin sink source destination]

/-- The time and the room that scripts have are enough to copy a value. -/
structure Suffices (settings : RunSettings) (value : Json) : Prop where
  time : 2 + value.work ≤ budgetOf settings
  room : ∀ limit, limitOf settings = some limit → startingSize + value.room ≤ limit
  short : Num.isSafe value.work = true

/-- Scripts can run in the session: no query is in the way of another global. -/
structure Scriptable (session : Session) : Prop where
  distinct : checkTargets [] (session.queries.map Query.target) = .ok ()
  free : ∀ query ∈ session.queries, Realm.isTaken query.target = false

section Running

variable {m : Type → Type} [Monad m] [LawfulMonad m] {origin : Origin} {sink : Sink} {text source destination : String}
  {session : Session} {value : Json} {settings : RunSettings}

theorem Scriptable.none_taken (scriptable : Scriptable session) :
    (session.globals.any fun entry => Realm.isTaken entry.target) = false := by
  have capabilities : (Realm.capabilityGlobals.any fun entry => Realm.isTaken entry.target) = false := by decide
  rw [Realm.globals_eq, List.any_append, capabilities, Bool.false_or, List.any_map, List.any_eq_false]
  exact fun query member => Bool.eq_false_iff.mp (scriptable.free query member)

theorem Suffices.not_lacksRoom (enough : Suffices settings value) : lacksRoom settings = false := by
  rw [lacksRoom]
  cases limited : limitOf settings with
  | none => rfl
  | some limit =>
    have := enough.room limit limited
    simp only [decide_eq_false_iff_not]
    omega

theorem Suffices.affords (enough : Suffices settings value) (globals : List Session.Global) :
    (Eval.cleared (startingHeap settings globals)).Affords (2 + value.work) value.room :=
  ⟨enough.time, enough.room⟩

theorem interpret_readable {globals : List Session.Global} {program : Program} {readable : Program}
    (roomy : lacksRoom settings = false) (asBody : Program.read false (functionText text.toList) = .ok readable)
    (free : (globals.any fun entry => Realm.isTaken entry.target) = false) (plain : nulPosition? text.toList = none)
    (read : Program.read true text.toList = .ok program) (declares : redeclaresConstant program = false) :
    interpret settings globals text = .runs (Machine.drive (Eval.evaluator program.depth) (budgetOf settings) []
      (.script (Eval.runToEnd (Eval.evaluator program.depth) program (startingHeap settings globals)))) := by
  rw [interpret, runStrictly, roomy, asBody, free, plain, read]
  simp only [declares]
  rfl

/-- A script that copies a value ends well, and has stored that value. -/
theorem runSource_copies (provider : Option (TokenSource m)) (copies : Copies text origin sink source destination)
    (found : origin.find? session source = some value) (portable : value.Portable) (scriptable : Scriptable session)
    (enough : Suffices settings value) :
    runSource interpret settings provider text session = pure (.ok (), sink.put session destination value) := by
  obtain ⟨_, readable⟩ := copies.readable
  obtain ⟨program, read, deep, hoisted, body⟩ := copies.whole
  obtain ⟨depth, levels⟩ : ∃ depth, program.depth = depth + 5 := ⟨program.depth - 5, by omega⟩
  obtain ⟨fuel, steps⟩ : ∃ fuel, budgetOf settings = fuel + 7 := by
    refine ⟨budgetOf settings - 7, ?_⟩
    rw [budgetOf, leastSteps]
    omega
  have declares : redeclaresConstant program = false := by
    rw [redeclaresConstant, body]
    rfl
  have same : (Eval.cleared (startingHeap settings session.globals)).objects =
      (Realm.withGlobals session.globals).objects := by
    rw [Eval.objects_cleared, startingHeap]
  obtain ⟨giver, reader, reads⟩ := Realm.ready_session scriptable.distinct origin.known
  obtain ⟨taker, writer, writes⟩ := Realm.ready_session scriptable.distinct sink.known
  have offered := reads.offers.of_objects same
  have taken := writes.offers.of_objects same
  have ran := Eval.runToEnd_copy (giver, reader) (taker, writer) offered taken depth body hoisted
  have performed := perform_copying settings provider (Eval.evaluator (depth + 5)) fuel (giver, reader) (taker, writer)
    destination found portable offered.host taken.host taken.inside.2 (reads.silent.of_objects same)
    (enough.affords session.globals)
  rw [runSource, scriptable.distinct, copies.filled,
    interpret_readable enough.not_lacksRoom readable scriptable.none_taken copies.plain read declares, steps, levels, ran]
  exact performed

end Running

end ScriptedTask.Script
