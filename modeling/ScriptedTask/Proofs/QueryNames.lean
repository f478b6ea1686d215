import Mathlib.Data.List.Induction
import ScriptedTask.Proofs.Alike
import ScriptedTask.Proofs.BlankScripts
import ScriptedTask.Proofs.Outcomes
import ScriptedTask.Proofs.Recording
import ScriptedTask.Storage.Tree
import ScriptedTask.Worker.FixtureFile

/-! The names of queries. They are looked at before anything else of a run, so a query that takes a name that
is not free stops every run in the same way, whatever the script is. -/

namespace ScriptedTask

/-- The query takes the name of a capability or of a query before it. -/
inductive Query.Offends (earlier : List String) (target : String) : ScriptError → Prop
  | shadows (reserved : target ∈ capabilityTargets) :
    Offends earlier target
      (.engine ("external query '" ++ target ++ "' would shadow the '" ++ target ++ "' capability"))
  | repeats (unreserved : target ∉ capabilityTargets) (taken : target ∈ earlier) :
    Offends earlier target (.engine ("external query '" ++ target ++ "' is registered more than once"))

/-- The error tells of the first query whose name is not free. -/
def Query.FirstOffence (queries : List Query) (error : ScriptError) : Prop :=
  ∃ earlier query later, queries = earlier ++ query :: later ∧ Query.Compatible earlier ∧
    Query.Offends (earlier.map Query.target) query.target error

namespace Script

variable {seen front targets : List String} {target : String} {error : ScriptError}

theorem checkTargets_append (seen front rest : List String) :
    checkTargets seen (front ++ rest) = checkTargets seen front >>= fun _ => checkTargets (front.reverse ++ seen) rest := by
  induction front generalizing seen with
  | nil => rfl
  | cons target front ih =>
    rw [List.cons_append, checkTargets, checkTargets]
    split
    · rfl
    · split
      · rfl
      · rw [ih, List.reverse_cons, List.append_assoc]
        rfl

theorem checkTargets_single {earlier : List String} (same : ∀ name, name ∈ seen ↔ name ∈ earlier) :
    checkTargets seen [target] = .error error ↔ Query.Offends earlier target error := by
  rw [checkTargets]
  by_cases reserved : target ∈ capabilityTargets
  · rw [if_pos (by simpa using reserved)]
    constructor
    · rintro ⟨⟩
      exact .shadows reserved
    · rintro (_ | ⟨unreserved, -⟩)
      · rfl
      · exact absurd reserved unreserved
  rw [if_neg (by simpa using reserved)]
  by_cases taken : target ∈ earlier
  · rw [if_pos (by simpa [same] using taken)]
    constructor
    · rintro ⟨⟩
      exact .repeats reserved taken
    · rintro (shadowed | _)
      · exact absurd shadowed reserved
      · rfl
  · rw [if_neg (by simpa [same] using taken)]
    constructor
    · rintro ⟨⟩
    · rintro (shadowed | ⟨-, again⟩)
      · exact absurd shadowed reserved
      · exact absurd again taken

/-- The check fails at the first name that is not free. -/
theorem checkTargets_error_iff : checkTargets [] targets = .error error ↔ ∃ front target rest,
    targets = front ++ target :: rest ∧ checkTargets [] front = .ok () ∧ Query.Offends front target error := by
  have single (front : List String) (target : String) :
      checkTargets (front.reverse ++ []) [target] = .error error ↔ Query.Offends front target error :=
    checkTargets_single fun name => by simp
  constructor
  · intro failed
    -- By induction from the end: either the names before the last one fail already, or the last one does.
    induction targets using List.reverseRecOn with
    | nil => cases failed
    | append_singleton front target ih =>
      rw [checkTargets_append] at failed
      cases checked : checkTargets [] front with
      | error earlier =>
        rw [checked] at failed
        cases failed
        obtain ⟨before, offender, rest, rfl, passed, offends⟩ := ih checked
        exact ⟨before, offender, rest ++ [target], by rw [List.append_assoc, List.cons_append], passed, offends⟩
      | ok _ =>
        rw [checked] at failed
        exact ⟨front, target, [], rfl, checked, (single front target).mp failed⟩
  · rintro ⟨front, target, rest, rfl, passed, offends⟩
    have split : target :: rest = [target] ++ rest := rfl
    rw [checkTargets_append, passed, split]
    change checkTargets (front.reverse ++ []) ([target] ++ rest) = _
    rw [checkTargets_append, (single front target).mpr offends]
    rfl

end Script

namespace Query

variable {queries : List Query} {error : ScriptError}

theorem compatible_iff : Compatible queries ↔ Script.checkTargets [] (queries.map Query.target) = .ok () := by
  refine ⟨Compatible.checked, fun checked => ?_⟩
  obtain ⟨distinct, unreserved, -⟩ := Script.checkTargets_ok_iff.mp checked
  exact ⟨distinct, fun query member => unreserved _ (List.mem_map_of_mem member)⟩

theorem firstOffence_iff :
    FirstOffence queries error ↔ Script.checkTargets [] (queries.map Query.target) = .error error := by
  rw [Script.checkTargets_error_iff]
  constructor
  · rintro ⟨earlier, query, later, rfl, compatible, offends⟩
    exact ⟨_, _, _, List.map_append, compatible.checked, offends⟩
  · rintro ⟨front, target, rest, split, passed, offends⟩
    obtain ⟨earlier, others, rfl, rfl, more⟩ := List.map_eq_append_iff.mp split
    obtain ⟨query, later, rfl, rfl, -⟩ := List.map_eq_cons_iff.mp more
    exact ⟨earlier, query, later, rfl, compatible_iff.mpr passed, offends⟩

/-- The names of all queries are free, or one of them is the first whose name is not. -/
theorem compatible_or_firstOffence (queries : List Query) : Compatible queries ∨ ∃ error, FirstOffence queries error := by
  cases checked : Script.checkTargets [] (queries.map Query.target) with
  | ok _ => exact .inl (compatible_iff.mpr checked)
  | error error => exact .inr ⟨error, firstOffence_iff.mpr checked⟩

theorem FirstOffence.not_compatible (offence : FirstOffence queries error) : ¬Compatible queries := by
  intro compatible
  have failed := firstOffence_iff.mp offence
  rw [compatible.checked] at failed
  cases failed

end Query

namespace Script

variable {m : Type → Type} [Monad m] {interpreter : Interpreter} {settings : RunSettings} {provider : Option (TokenSource m)}
  {source : String} {session : Session}

/-- A run from where the names of the queries are known to be free. -/
def runUnchecked (interpreter : Interpreter) (settings : RunSettings) (provider : Option (TokenSource m))
    (source : String) (session : Session) : m (Except ScriptError Unit × Session) :=
  if Text.isBlankText source then pure (.ok (), session)
  else
    match interpreter settings session.globals source with
    | .refused message => pure (.error (.engine message), session)
    | .unreadable message => pure (.error (.compile message), session)
    | .runs behaviour => behaviour.perform settings provider none session

theorem runSource_compatible (compatible : Query.Compatible session.queries) :
    runSource interpreter settings provider source session =
      runUnchecked interpreter settings provider source session := by
  rw [runSource, compatible.checked]
  rfl

theorem runSource_offence {error : ScriptError} (offence : Query.FirstOffence session.queries error) :
    runSource interpreter settings provider source session = pure (.error error, session) := by
  rw [runSource, Query.firstOffence_iff.mp offence]

end Script

namespace Pipeline

section Offences

variable {m : Type → Type} [Monad m] [LawfulMonad m] {pipeline : Pipeline m} {error : ScriptError}

theorem runPhase_offence (offence : Query.FirstOffence pipeline.queries error) (phase : Phase)
    (inputs snapshot outputs : Values) (token : TokenCache) :
    pipeline.runPhase phase inputs snapshot outputs token = throw (.script phase error) := by
  have stopped : (pipeline.session inputs snapshot outputs token).queries = pipeline.queries := rfl
  apply ExceptT.ext
  rw [runPhase, ExceptT.run_mk, Script.runSource_offence (stopped ▸ offence), pure_bind]
  rfl

/-- All that is left of an invocation: it loads the variables and stops at the first script. -/
theorem execute_offence (offence : Query.FirstOffence pipeline.queries error) (task : Task) :
    pipeline.execute task = (do
      pipeline.enter task .fetchContext
      let _ ← pipeline.load task.instanceId
      pipeline.enter task .runPreScripts
      throw (.script .pre error)) := by
  simp only [execute, prepare, runPhase_offence offence, throw_bind, bind_assoc]

end Offences

/-- Loading is noted and nothing after it but the stage in which the invocation stops. -/
theorem leads_offence {σ : Type} {pipeline : Pipeline (StateM σ)} {error : ScriptError}
    (offence : Query.FirstOffence pipeline.queries error) (task : Task) {world middle : σ} {snapshot : Values}
    (loaded : (pipeline.repository.load task.instanceId).run (pipeline.entering task .fetchContext world) =
      (.ok snapshot, middle)) :
    Leads (pipeline.recorded.execute task) (pipeline.execute task) world (.error (.script .pre error))
      (pipeline.entering task .runPreScripts middle)
      [.entered .fetchContext, .loaded task.instanceId, .entered .runPreScripts] := by
  have same : pipeline.recorded.queries = pipeline.queries := rfl
  rw [execute_offence offence, execute_offence (same ▸ offence)]
  have entered (stage : Stage) (world : σ) : Leads (pipeline.recorded.enter task stage) (pipeline.enter task stage) world
      (.ok ()) (pipeline.entering task stage world) [.entered stage] := ⟨rfl, fun _ => rfl⟩
  have loading : Leads (pipeline.recorded.load task.instanceId) (pipeline.load task.instanceId)
      (pipeline.entering task .fetchContext world) (.ok snapshot) middle [.loaded task.instanceId] :=
    leads_consult (.fetchVariables task.instanceId) [.loaded task.instanceId] loaded
  have thrown (world : σ) : Leads (throw (.script .pre error) : Step (StateM (σ × List Event)) Outcome)
      (throw (.script .pre error)) world (.error (.script .pre error)) world [] :=
    ⟨rfl, fun log => by rw [List.append_nil]; rfl⟩
  exact (entered .fetchContext world).bind (loading.bind ((entered .runPreScripts middle).bind (thrown _)))

end Pipeline

namespace Fixture

variable {document : Values} {queries : List Query} {query : Query} {target : String} {value : Json}

theorem query?_ok (made : query? target value = .ok query) : query.target = target ∧ target ∉ capabilityTargets := by
  unfold query? at made
  split at made
  · cases made
  next free =>
    refine ⟨?_, by simpa using free⟩
    split at made
    · cases made
      rfl
    · cases made

/-- The names come from a map, in which each stands once. -/
theorem compatible_queries (made : Fixture.queries document = .ok queries) : Query.Compatible queries := by
  have each := (mapM_ok_iff.mp made).imp fun _ _ made => query?_ok made
  have targets : queries.map Query.target = document.keys := by
    rw [Ascending.keys, ← List.forall₂_eq_eq_eq, List.forall₂_map_left_iff, List.forall₂_map_right_iff]
    exact each.flip.imp fun _ _ made => made.1
  refine ⟨targets ▸ document.nodup_keys, ?_⟩
  intro query member
  obtain ⟨entry, -, same, free⟩ := exists_of_forall₂ each member
  exact same ▸ free

end Fixture

theorem FixtureFile.compatible_ofFile {path : String} {content : Except FileError String} {queries : List Query}
    (loaded : ofFile path content = .ok queries) : Query.Compatible queries := by
  unfold ofFile at loaded
  split at loaded
  · cases loaded
  split at loaded
  · cases loaded
  split at loaded
  next made =>
    cases loaded
    exact Fixture.compatible_queries made
  · cases loaded

/-- Queries may be registered just if no name stands twice among them and none is that of a capability. If not,
the first query that offends against this stops every run, before anything is done, and every invocation, after it
has loaded the variables. Queries that come from a file may be registered. -/
theorem names_are_checked_first :
    (∀ queries : List Query,
      (Query.Compatible queries ↔ (queries.map Query.target).Nodup ∧
        ∀ query ∈ queries, query.target ≠ "variables" ∧ query.target ≠ "inputs" ∧ query.target ≠ "outputs") ∧
      (Query.Compatible queries ↔ ¬∃ error, Query.FirstOffence queries error)) ∧
    (∀ {m : Type → Type} [Monad m] (interpreter : Script.Interpreter) (settings : RunSettings)
      (provider : Option (TokenSource m)) (source : String) (session : Session),
      (Query.Compatible session.queries → Script.runSource interpreter settings provider source session =
        Script.runUnchecked interpreter settings provider source session) ∧
      ∀ error, Query.FirstOffence session.queries error →
        Script.runSource interpreter settings provider source session = pure (.error error, session)) ∧
    (∀ {σ : Type} (pipeline : Pipeline (StateM σ)) (task : Task) (error : ScriptError) (world middle : σ)
      (snapshot : Values), Query.FirstOffence pipeline.queries error →
      (pipeline.repository.load task.instanceId).run (pipeline.entering task .fetchContext world) =
        (.ok snapshot, middle) →
      Leads (pipeline.recorded.execute task) (pipeline.execute task) world (.error (.script .pre error))
        (pipeline.entering task .runPreScripts middle)
        [.entered .fetchContext, .loaded task.instanceId, .entered .runPreScripts]) ∧
    ∀ {σ : Type} (files : FileAccess (StateM σ)) (path : String) (world later : σ) (queries : List Query),
      (FixtureFile.load files path).run world = (.ok queries, later) → Query.Compatible queries := by
  refine ⟨?_, ?_, ?_, ?_⟩
  · intro queries
    refine ⟨?_, ?_⟩
    · have free (target : String) : target ∉ capabilityTargets ↔
          target ≠ "variables" ∧ target ≠ "inputs" ∧ target ≠ "outputs" := by
        have listed : capabilityTargets = ["variables", "inputs", "outputs"] := rfl
        simp [listed]
      simp only [← free]
      exact ⟨fun ⟨distinct, unreserved⟩ => ⟨distinct, unreserved⟩, fun ⟨distinct, unreserved⟩ => ⟨distinct, unreserved⟩⟩
    · constructor
      · rintro compatible ⟨error, offence⟩
        exact offence.not_compatible compatible
      · exact (Query.compatible_or_firstOffence queries).resolve_right
  · intro m _ interpreter settings provider source session
    exact ⟨Script.runSource_compatible, fun error => Script.runSource_offence⟩
  · intro σ pipeline task error world middle snapshot offence loaded
    exact pipeline.leads_offence offence task loaded
  · intro σ files path world later queries loaded
    obtain ⟨content, _, _, ended⟩ := run_bind_eq loaded
    cases content_eq : FixtureFile.ofFile path content with
    | ok found =>
      rw [content_eq] at ended
      cases ended
      exact FixtureFile.compatible_ofFile content_eq
    | error failure =>
      rw [content_eq] at ended
      cases ended

namespace Query

def silent (target : String) : Query := ⟨target, [], fun _ _ => .answer (.ok .null)⟩

/-- The third name is that of the first, and the last one that of a capability. -/
def crowd : List Query := [silent "users", silent "devices", silent "users", silent "inputs"]

def crowded : Session := { Session.start .empty .empty .empty false with queries := crowd }

def fixtureFiles : FileTree :=
  ⟨SortedMap.ofList [("fixtures.json", .file "\x7b\"users\":\x7b\x7d,\"devices\":\x7b\x7d\x7d")], []⟩

set_option maxRecDepth 100000 in
theorem third_query_is_refused :
    (∀ source, Script.runSource Script.interpret {} none source crowded =
      (pure (.error (.engine "external query 'users' is registered more than once"), crowded) : Id _)) ∧
    ∃ queries, (FixtureFile.load FileTree.access "fixtures.json").run fixtureFiles = (.ok queries, fixtureFiles) ∧
      queries.map target = ["devices", "users"] ∧ Compatible queries := by
  have offence : FirstOffence crowd (.engine "external query 'users' is registered more than once") :=
    firstOffence_iff.mpr rfl
  refine ⟨?_, ?_⟩
  · intro source
    exact (names_are_checked_first.2.1 Script.interpret {} none source crowded).2 _ offence
  · have known : ((FixtureFile.load FileTree.access "fixtures.json").run fixtureFiles).1.toOption.map (·.map target) =
        some ["devices", "users"] := by decide +kernel
    rcases loaded : (FixtureFile.load FileTree.access "fixtures.json").run fixtureFiles with ⟨found, later⟩
    have unchanged : later = fixtureFiles := by
      cases loaded
      rfl
    subst unchanged
    rw [loaded] at known
    cases found with
    | error failure => cases known
    | ok queries =>
      exact ⟨queries, rfl, Option.some.inj known, names_are_checked_first.2.2.2 FileTree.access "fixtures.json" _ _ _ loaded⟩

end Query
end ScriptedTask
