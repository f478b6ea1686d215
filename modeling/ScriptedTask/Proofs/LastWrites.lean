import ScriptedTask.Proofs.ReadBack

/-! Calls that load and store variables, served one after the other, whoever makes them. Every load
finds for each name what the last store before it gave, and stores that have no name of an instance
in common can change places. -/

namespace ScriptedTask.VariableFile

open DocumentStore

/-- The file holds the document and can be replaced, and the document is read back as it is. -/
structure Serves (path : String) (document : Document) (tree : FileTree) : Prop where
  holds : Holds path document tree
  precise : Everywhere Precise document
  replaceable : (store path).Replaceable tree

variable {path instanceId name : String} {document : Document} {tree : FileTree} {changes : Values}

theorem Serves.store (serves : Serves path document tree) (precise : Precise changes) (shallow : Shallow changes)
    (instanceId : String) :
    ∃ text later, (VariableFile.store path).Replaces text tree later ∧
      ((repository FileTree.access path).store instanceId changes).run tree = (.ok (), later) ∧
      Serves path (merge document instanceId changes) later := by
  obtain ⟨later, replaced⟩ := serves.replaceable (encode (merge document instanceId changes)).prettyText
  have precise := (everywhere_merge serves.precise instanceId).mpr precise
  have shallow := (everywhere_merge serves.holds.shallow instanceId).mpr shallow
  exact ⟨_, later, replaced, serves.holds.store_replaces replaced,
    holds_written replaced.read precise shallow, precise, replaced.replaceable⟩

theorem get?_merge (document : Document) (changed instanceId : String) (changes : Values) :
    (merge document changed changes).get? instanceId =
      if instanceId = changed then some ((variablesOf document changed).overlay changes) else document.get? instanceId := by
  rw [merge, Ascending.get?_insert]

theorem merge_comm_of_ne (document : Document) {changed other : String} (differ : changed ≠ other) (changes others : Values) :
    merge (merge document changed changes) other others = merge (merge document other others) changed changes := by
  apply Ascending.ext_get?
  intro instanceId
  simp only [get?_merge, variablesOf_merge, if_neg differ, if_neg differ.symm]
  split
  next here =>
    subst here
    rw [if_neg differ.symm]
  · rfl

theorem merge_comm_of_disjoint (document : Document) (changed : String) {changes others : Values}
    (disjoint : ∀ name, changes.get? name = none ∨ others.get? name = none) :
    merge (merge document changed changes) changed others = merge (merge document changed others) changed changes := by
  apply Ascending.ext_get?
  intro instanceId
  simp only [get?_merge, variablesOf_merge, if_true]
  split
  · rw [Ascending.overlay_comm _ disjoint]
  · rfl

/-- What is asked of a repository. -/
inductive Request where
  | load (instanceId : String)
  | store (instanceId : String) (changes : Values)

namespace Request

/-- What a request binds a name of an instance to. -/
def bound? (instanceId name : String) : Request → Option Json
  | .load _ => none
  | .store changed changes => if changed = instanceId then changes.get? name else none

/-- No name of an instance is bound by both requests. -/
def Disjoint (first second : Request) : Prop :=
  ∀ instanceId name, first.bound? instanceId name = none ∨ second.bound? instanceId name = none

/-- A request whose changes a document can hold. -/
def Fits : Request → Prop
  | .load _ => True
  | .store _ changes => Precise changes ∧ Shallow changes

/-- The document after the request. -/
def change (document : Document) : Request → Document
  | .load _ => document
  | .store instanceId changes => merge document instanceId changes

/-- The variables that are asked for, if any are. -/
def answer (document : Document) : Request → Option Values
  | .load instanceId => some (variablesOf document instanceId)
  | .store .. => none

section Serving

variable {m : Type → Type} [Monad m]

def serve (repository : Repository m) : Request → m (Except Failure (Option Values))
  | .load instanceId => return (← repository.load instanceId).map some
  | .store instanceId changes => return (← repository.store instanceId changes).map fun () => none

def serveAll (repository : Repository m) : List Request → m (List (Except Failure (Option Values)))
  | [] => pure []
  | request :: rest => return (← request.serve repository) :: (← serveAll repository rest)

end Serving

/-- What the last request that binds a name of an instance binds it to. -/
def lastBound? (instanceId name : String) (requests : List Request) : Option Json :=
  requests.reverse.findSome? (bound? instanceId name)

variable {request first second : Request}

theorem get?_change (document : Document) (request : Request) (instanceId name : String) :
    (variablesOf (request.change document) instanceId).get? name =
      (request.bound? instanceId name).or ((variablesOf document instanceId).get? name) := by
  cases request with
  | load => rfl
  | store changed changes =>
    rw [change, variablesOf_merge, bound?]
    by_cases same : instanceId = changed
    · rw [if_pos same, if_pos same.symm, Ascending.get?_overlay]
    · rw [if_neg same, if_neg (Ne.symm same), Option.none_or]

theorem get?_foldl_change (document : Document) (requests : List Request) (instanceId name : String) :
    (variablesOf (requests.foldl change document) instanceId).get? name =
      (lastBound? instanceId name requests).or ((variablesOf document instanceId).get? name) := by
  induction requests generalizing document with
  | nil => rfl
  | cons request rest ih =>
    rw [List.foldl_cons, ih, get?_change, lastBound?, lastBound?, List.reverse_cons, List.findSome?_append,
      List.findSome?_singleton, Option.or_assoc]

/-- The answers to requests, from the document as it is before each of them. -/
def answers (document : Document) : List Request → List (Except Failure (Option Values))
  | [] => []
  | request :: rest => .ok (request.answer document) :: answers (request.change document) rest

theorem length_answers (document : Document) (requests : List Request) :
    (answers document requests).length = requests.length := by
  induction requests generalizing document with
  | nil => rfl
  | cons request rest ih => rw [answers, List.length_cons, ih, List.length_cons]

theorem answers_at (document : Document) (before after : List Request) (request : Request) :
    (answers document (before ++ request :: after))[before.length]? =
      some (.ok (request.answer (before.foldl change document))) := by
  induction before generalizing document with
  | nil => rfl
  | cons first rest ih => exact ih (first.change document)

/-- Disjoint requests can change places. -/
theorem change_comm (disjoint : Disjoint first second) (document : Document) :
    second.change (first.change document) = first.change (second.change document) := by
  cases first with
  | load => rfl
  | store changed changes =>
    cases second with
    | load => rfl
    | store other others =>
      by_cases same : changed = other
      · subst same
        have apart : ∀ name, changes.get? name = none ∨ others.get? name = none := by
          simpa [Disjoint, bound?] using disjoint changed
        exact merge_comm_of_disjoint document changed apart
      · exact merge_comm_of_ne document same changes others

section Runs

variable {requests : List Request}

theorem serve_run (serves : Serves path document tree) (fits : request.Fits) :
    ∃ later, (request.serve (repository FileTree.access path)).run tree = (.ok (request.answer document), later) ∧
      Serves path (request.change document) later := by
  cases request with
  | load instanceId => exact ⟨tree, run_map_of (Except.map some) (serves.holds.load instanceId), serves⟩
  | store instanceId changes =>
    obtain ⟨text, later, -, stored, serves⟩ := serves.store fits.1 fits.2 instanceId
    exact ⟨later, run_map_of _ stored, serves⟩

theorem serveAll_run (serves : Serves path document tree) (fits : ∀ request ∈ requests, request.Fits) :
    ∃ later, (serveAll (repository FileTree.access path) requests).run tree = (answers document requests, later) ∧
      Serves path (requests.foldl change document) later := by
  induction requests generalizing document tree with
  | nil => exact ⟨tree, rfl, serves⟩
  | cons request rest ih =>
    rw [List.forall_mem_cons] at fits
    obtain ⟨between, first, serves⟩ := serve_run serves fits.1
    obtain ⟨later, others, serves⟩ := ih serves fits.2
    refine ⟨later, ?_, serves⟩
    rw [serveAll, run_bind_of _ first, run_bind_of _ others]
    rfl

end Runs

/-- The answers to requests: to each load, under every name, what the last store before it gave, or else
what was there initially. -/
structure Answered (initial : Document) (requests : List Request) (answers : List (Except Failure (Option Values))) : Prop where
  length : answers.length = requests.length
  stores : ∀ before instanceId changes after, requests = before ++ .store instanceId changes :: after →
    answers[before.length]? = some (.ok none)
  loads : ∀ before instanceId after, requests = before ++ .load instanceId :: after → ∃ values,
    answers[before.length]? = some (.ok (some values)) ∧
      ∀ name, values.get? name = (lastBound? instanceId name before).or ((variablesOf initial instanceId).get? name)

/-- A request that removes no name and leaves the other instances alone. -/
structure Spares (request : Request) (document changed : Document) : Prop where
  names : ∀ instanceId name, ((variablesOf document instanceId).get? name).isSome = true →
    ((variablesOf changed instanceId).get? name).isSome = true
  others : ∀ instanceId, (∀ changes, request ≠ .store instanceId changes) →
    changed.get? instanceId = document.get? instanceId

theorem answered (initial : Document) (requests : List Request) : Answered initial requests (answers initial requests) where
  length := length_answers initial requests
  stores := by
    rintro before instanceId changes after rfl
    exact answers_at initial before after _
  loads := by
    rintro before instanceId after rfl
    exact ⟨_, answers_at initial before after _, get?_foldl_change initial before instanceId⟩

theorem spares_change (request : Request) (document : Document) : request.Spares document (request.change document) where
  names instanceId name held := by
    rw [get?_change, Option.isSome_or, held, Bool.or_true]
  others instanceId away := by
    cases request with
    | load => rfl
    | store changed changes =>
      rw [change, get?_merge, if_neg]
      rintro rfl
      exact away changes rfl

/-- What comes of serving requests on the variables in a file. -/
structure Served (path : String) (initial : Document) (tree : FileTree) (requests : List Request)
    (answers : List (Except Failure (Option Values))) (final : Document) : Prop where
  answered : Answered initial requests answers
  /-- What every single request does to the document that it meets. -/
  spares : ∀ before request after, requests = before ++ request :: after → ∃ earlier middle answer next document changed,
    (serveAll (repository FileTree.access path) before).run tree = (earlier, middle) ∧ Holds path document middle ∧
      (request.serve (repository FileTree.access path)).run middle = (answer, next) ∧ Holds path changed next ∧
      request.Spares document changed
  /-- Neighbours that bind no name of an instance both can be served the other way around. -/
  exchange : ∀ before first second after, requests = before ++ first :: second :: after → first.Disjoint second →
    ∃ others exchanged, (serveAll (repository FileTree.access path) (before ++ second :: first :: after)).run tree =
      (others, exchanged) ∧ Holds path final exchanged

/-- However the calls of any number of invocations follow one another, the last write of a name of an
instance counts, nothing is lost, and calls that have nothing to do with one another commute. -/
theorem last_write_counts {path : String} {initial : Document} {tree : FileTree} {requests : List Request}
    (readable : ((VariableFile.store path).read FileTree.access).run tree = (.ok initial, tree))
    (replaceable : (VariableFile.store path).Replaceable tree) (precise : Everywhere Precise initial)
    (fits : ∀ request ∈ requests, request.Fits) :
    ∃ answers later final, (serveAll (repository FileTree.access path) requests).run tree = (answers, later) ∧
      Holds path final later ∧ Served path initial tree requests answers final := by
  have serves : Serves path initial tree := ⟨readable, precise, replaceable⟩
  obtain ⟨later, ran, ended⟩ := serveAll_run serves fits
  refine ⟨_, later, _, ran, ended.holds, answered initial requests, ?_, ?_⟩
  · rintro before request after rfl
    rw [List.forall_mem_append, List.forall_mem_cons] at fits
    obtain ⟨middle, first, met⟩ := serveAll_run serves fits.1
    obtain ⟨next, served, left⟩ := serve_run met fits.2.1
    exact ⟨_, middle, _, next, _, _, first, met.holds, served, left.holds, spares_change request _⟩
  · rintro before first second after rfl disjoint
    have exchangedFit : ∀ request ∈ before ++ second :: first :: after, request.Fits := by
      intro request member
      apply fits
      simpa only [List.mem_append, List.mem_cons, or_left_comm] using member
    obtain ⟨exchanged, exchangedRan, exchangedEnded⟩ := serveAll_run serves exchangedFit
    refine ⟨_, exchanged, exchangedRan, ?_⟩
    rw [List.foldl_append, List.foldl_cons, List.foldl_cons, change_comm disjoint, ← List.foldl_cons, ← List.foldl_cons,
      ← List.foldl_append]
    exact exchangedEnded.holds

/-- Two instances write the same name, and one of them looks on. -/
def tangled : List Request := counts.flatMap fun call => [.store call.1 call.2, .load "a"]

theorem tangled_writes_are_kept_apart : ∃ answers later second third,
    (serveAll (repository FileTree.access "variables.json") tangled).run noFiles = (answers, later) ∧
      answers[3]? = some (.ok (some second)) ∧ second.get? "count" = some (.integer 1 (by decide)) ∧
      answers[5]? = some (.ok (some third)) ∧ third.get? "count" = some (.integer 3 (by decide)) := by
  have fits : ∀ request ∈ tangled, request.Fits := by
    simp [tangled, counts, Fits, Precise, Shallow, eachValue_single, Json.depth, Json.Exact, Json.floats]
  obtain ⟨answers, later, final, ran, -, served⟩ := last_write_counts (holds_noFiles isBare_variables)
    (replaceable_flat isBare_variables flat_noFiles) everywhere_empty fits
  obtain ⟨second, answeredSecond, heldSecond⟩ := served.answered.loads (tangled.take 3) "a" (tangled.drop 4) rfl
  obtain ⟨third, answeredThird, heldThird⟩ := served.answered.loads (tangled.take 5) "a" [] rfl
  exact ⟨answers, later, second, third, ran, answeredSecond, heldSecond "count", answeredThird, heldThird "count"⟩

end Request
end ScriptedTask.VariableFile
