import ScriptedTask.Proofs.Recording

/-! An invocation stores everything at its end or nothing at all. Its collaborators are called at
most once each and in a fixed order: loading, handling, storing. -/

namespace ScriptedTask

/-- All that can be noticed of an invocation that stores changes, in order. Every invocation that
fails breaks it off. -/
def itinerary (task substituted : Task) (changes : Values) : List Event :=
  [.entered .fetchContext, .loaded task.instanceId, .entered .runPreScripts, .entered .mergeVariables,
    .entered .substituteReferences, .entered .invokeHandler, .handled substituted, .entered .mergeOutputs,
    .entered .runPostScripts, .entered .mergeFinal, .entered .persistIfChanged,
    .stored task.instanceId changes, .entered .done]

/-- How many events there are when a stage ends. -/
def Stage.eventCount : Stage → Nat
  | fetchContext => 2
  | runPreScripts => 3
  | mergeVariables => 4
  | substituteReferences => 5
  | invokeHandler => 7
  | mergeOutputs => 8
  | runPostScripts => 9
  | mergeFinal => 10
  | persistIfChanged => 12
  | done => 13

def Event.isCall : Event → Bool
  | entered _ => false
  | _ => true

def callsIn (log : List Event) : List Event := log.filter Event.isCall

def Event.stage? : Event → Option Stage
  | entered stage => some stage
  | _ => none

def stagesIn (log : List Event) : List Stage := log.filterMap Event.stage?

theorem callsIn_take (task substituted : Task) (changes : Values) (count : Nat) :
    callsIn ((itinerary task substituted changes).take count) <+:
      [.loaded task.instanceId, .handled substituted, .stored task.instanceId changes] :=
  (List.take_prefix count (itinerary task substituted changes)).filter Event.isCall

theorem stagesIn_take (task substituted : Task) (changes : Values) (count : Nat) :
    stagesIn ((itinerary task substituted changes).take count) <+: Stage.all :=
  (List.take_prefix count (itinerary task substituted changes)).filterMap Event.stage?

/-- An item that is in a list once is among its first ones as soon as its place is. -/
theorem mem_take_append_cons {α : Type} {item other : α} {front back : List α} (before : other ∉ front)
    (after : other ∉ back) (count : Nat) :
    other ∈ (front ++ item :: back).take count ↔ other = item ∧ front.length < count := by
  rw [List.take_append, List.mem_append]
  constructor
  · rintro (early | late)
    · exact absurd (List.mem_of_mem_take early) before
    · cases rest : count - front.length with
      | zero =>
        rw [rest] at late
        cases late
      | succ more =>
        rw [rest, List.take_succ_cons, List.mem_cons] at late
        rcases late with same | beyond
        · exact ⟨same, by omega⟩
        · exact absurd (List.mem_of_mem_take beyond) after
  · rintro ⟨rfl, reached⟩
    obtain ⟨more, rest⟩ : ∃ more, count - front.length = more + 1 := ⟨count - front.length - 1, by omega⟩
    rw [rest, List.take_succ_cons]
    exact .inr List.mem_cons_self

theorem handled_mem_take {task substituted other : Task} {changes : Values} {count : Nat} :
    Event.handled other ∈ (itinerary task substituted changes).take count ↔ other = substituted ∧ 7 ≤ count := by
  let whole := itinerary task substituted changes
  have before : Event.handled other ∉ whole.take 6 := by simp [whole, itinerary]
  have after : Event.handled other ∉ whole.drop 7 := by simp [whole, itinerary]
  rw [← Event.handled.injEq]
  exact mem_take_append_cons before after count

theorem stored_mem_take {task substituted : Task} {instanceId : String} {changes others : Values} {count : Nat} :
    Event.stored instanceId others ∈ (itinerary task substituted changes).take count ↔
      (instanceId = task.instanceId ∧ others = changes) ∧ 12 ≤ count := by
  let whole := itinerary task substituted changes
  have before : Event.stored instanceId others ∉ whole.take 11 := by simp [whole, itinerary]
  have after : Event.stored instanceId others ∉ whole.drop 12 := by simp [whole, itinerary]
  rw [← Event.stored.injEq]
  exact mem_take_append_cons before after count

/-- The other task is this one with its references filled in from the variables. -/
def Task.Substitutes (task : Task) (current : Values) (substituted : Task) : Prop :=
  (task.inputs.substitute current).map task.withInputs = .ok substituted

namespace Pipeline

variable {σ : Type} {pipeline : Pipeline (StateM σ)} {task : Task} {world later : σ}

/-- The variables after the first phase: those that were loaded, with what its scripts wrote over them. -/
def Merges (pipeline : Pipeline (StateM σ)) (task : Task) (world : σ) (current : Values) : Prop :=
  ∃ snapshot loaded result token later,
    conduct (pipeline.load task.instanceId) (pipeline.entering task .fetchContext world) = (.ok snapshot, loaded) ∧
    conduct (pipeline.runPhase .pre task.inputs.values snapshot SortedMap.empty { instanceId := task.instanceId })
      (pipeline.entering task .runPreScripts loaded) = (.ok (result, token), later) ∧
    current = snapshot.overlay result.updates

/-- What the handler is given: the task with its references filled in from the variables after the first phase. -/
def Hands (pipeline : Pipeline (StateM σ)) (task : Task) (world : σ) (substituted : Task) : Prop :=
  ∃ current, pipeline.Merges task world current ∧ task.Substitutes current substituted

theorem runPhase_ok {phase : Phase} {inputs snapshot outputs : Values} {token kept : TokenCache}
    {dialogue : List Exchange} {result : PhaseResult}
    (told : conduct (pipeline.tellPhase phase inputs snapshot outputs token) world =
      (.ok (dialogue, result, kept), later)) :
    conduct (pipeline.runPhase phase inputs snapshot outputs token) world = (.ok (result, kept), later) := by
  rw [runPhase_eq_tellPhase, map_eq_pure_bind, conduct_bind_ok _ told]
  rfl

/-- How far an invocation comes before it stores anything, and what is noticed of that. -/
inductive Approach (pipeline : Pipeline (StateM σ)) (task : Task) (world : σ) :
    Except PipelineError Passage → List Event → Prop
  | arrived {passage : Passage} {events : List Event} (handed : pipeline.Hands task world passage.substituted)
    (whole : events = (itinerary task passage.substituted passage.changes).take 11) :
    Approach pipeline task world (.ok passage) events
  | stopped {error : PipelineError} {events : List Event} (substituted : Task)
    (early : error.stage.eventCount < 12)
    (handed : 7 ≤ error.stage.eventCount → pipeline.Hands task world substituted)
    (part : events = (itinerary task substituted SortedMap.empty).take error.stage.eventCount) :
    Approach pipeline task world (.error error) events

theorem Approach.unhandled {error : PipelineError} {stage : Stage} {events : List Event}
    (blamed : error.stage = stage) (before : stage.eventCount < 7)
    (part : events = (itinerary task task SortedMap.empty).take stage.eventCount) :
    Approach pipeline task world (.error error) events := by
  subst blamed
  exact .stopped task (by omega) (by omega) part

/-- Before it stores anything an invocation does a part of its itinerary, up to the stage that
stops it. -/
theorem tell_approaches (pipeline : Pipeline (StateM σ)) (task : Task) (world : σ) :
    Comes (pipeline.recorded.tell task) (pipeline.tell task) world (Approach pipeline task world) := by
  unfold tell
  apply comes_enter
  apply Comes.bind (pipeline.leads_load task.instanceId _)
  · intro error blamed
    exact .unhandled blamed (by decide) rfl
  intro snapshot first loaded
  apply comes_enter
  apply Comes.bind (pipeline.leads_tellPhase .pre task.inputs.values snapshot _ _ _)
  · intro error blamed
    exact .unhandled blamed (by decide) rfl
  intro ⟨dialogue, result, token⟩ second told
  apply comes_enter
  apply comes_enter
  let filling := pipeline.entering task .substituteReferences (pipeline.entering task .mergeVariables second)
  have replacing := leads_substitute task (snapshot.overlay result.updates) filling
  cases replaced : (task.inputs.substitute (snapshot.overlay result.updates)).map task.withInputs with
  | error source =>
    have blamed : (PipelineError.substitution source).stage = .substituteReferences := rfl
    rw [replaced] at replacing
    exact replacing.comes_stop (.unhandled blamed (by decide) rfl)
  | ok substituted =>
    have merged : pipeline.Merges task world (snapshot.overlay result.updates) :=
      ⟨snapshot, first, result, token, second, loaded, runPhase_ok told, rfl⟩
    have handed : pipeline.Hands task world substituted := ⟨_, merged, replaced⟩
    rw [replaced] at replacing
    apply replacing.comes
    apply comes_enter
    apply Comes.bind (pipeline.leads_handle substituted _)
    · intro error blamed
      exact .stopped substituted (by rw [blamed]; decide) (fun _ => handed) (by rw [blamed]; rfl)
    intro handled third _
    apply comes_enter
    apply comes_enter
    apply Comes.bind (pipeline.leads_tellPhase .post task.inputs.values (snapshot.overlay result.updates) _ token _)
    · intro error (blamed : error.stage = .runPostScripts)
      exact .stopped substituted (by rw [blamed]; decide) (fun _ => handed) (by rw [blamed]; rfl)
    intro ⟨others, after, last⟩ fourth _
    apply comes_enter
    apply comes_enter
    exact ⟨_, _, [], leads_pure _ _, .arrived handed rfl⟩

/-- What is noticed of an invocation after it has come to storing. -/
inductive Departure (task : Task) (passage : Passage) : Except PipelineError Outcome → List Event → Prop
  | unchanged {outcome : Outcome} (idle : passage.changes.isEmpty = true) :
    Departure task passage (.ok outcome) [.entered .done]
  | stored {outcome : Outcome} (changed : passage.changes.isEmpty = false) :
    Departure task passage (.ok outcome) [.stored task.instanceId passage.changes, .entered .done]
  | refused {error : PipelineError} (changed : passage.changes.isEmpty = false)
    (blamed : error.stage = .persistIfChanged) :
    Departure task passage (.error error) [.stored task.instanceId passage.changes]

theorem leave_departs (pipeline : Pipeline (StateM σ)) (task : Task) (passage : Passage) (world : σ) :
    Comes (pipeline.recorded.leave task passage) (pipeline.leave task passage) world (Departure task passage) := by
  unfold leave
  apply Comes.bind (pipeline.leads_persist task.instanceId passage.changes world)
  · intro error ⟨changed, blamed⟩
    rw [changed]
    exact .refused changed blamed
  intro _ middle _
  apply comes_enter
  refine ⟨_, _, [], leads_pure _ _, ?_⟩
  cases changed : passage.changes.isEmpty with
  | true => exact .unchanged changed
  | false => exact .stored changed

end Pipeline

def Stage.position (stage : Stage) : Nat := Stage.all.idxOf stage

namespace Pipeline

variable {σ : Type}

/-- What the log of an invocation that ended in the result says. -/
structure AllOrNothing (pipeline : Pipeline (StateM σ)) (task : Task) (world : σ)
    (result : Except PipelineError Outcome) (log : List Event) : Prop where
  /-- Each collaborator is called at most once, in this order and for the task's own instance. -/
  order : ∃ substituted changes,
    callsIn log <+: [.loaded task.instanceId, .handled substituted, .stored task.instanceId changes]
  handed : ∀ substituted, .handled substituted ∈ log → pipeline.Hands task world substituted
  /-- Changes are stored just if everything before succeeded and a script wrote something. -/
  stored : ∀ instanceId changes, .stored instanceId changes ∈ log ↔
    instanceId = task.instanceId ∧ ∃ passage later, conduct (pipeline.tell task) world = (.ok passage, later) ∧
      changes = passage.changes ∧ ∃ exchange ∈ passage.before ++ passage.after, exchange.written?.isSome
  stages : stagesIn log <+: Stage.all
  finished : ∀ outcome, result = .ok outcome → stagesIn log = Stage.all
  /-- An error belongs to the stage that was entered last. -/
  blamed : ∀ error, result = .error error → (stagesIn log).getLast? = some error.stage
  storing : ∀ error, result = .error error →
    ((∃ instanceId changes, .stored instanceId changes ∈ log) ↔ error.stage = .persistIfChanged)
  handling : ∀ error, result = .error error →
    ((∃ substituted, .handled substituted ∈ log) ↔ Stage.invokeHandler.position ≤ error.stage.position)

variable {pipeline : Pipeline (StateM σ)} {task : Task} {world later : σ}

theorem changed_iff {passage : Passage} (told : conduct (pipeline.tell task) world = (.ok passage, later)) :
    passage.changes.isEmpty = false ↔ ∃ exchange ∈ passage.before ++ passage.after, exchange.written?.isSome := by
  obtain ⟨first, second, via⟩ := tell_ok told
  have silent := isEmpty_changes via
  rw [writesOf, List.filterMap_eq_nil_iff] at silent
  rw [← Bool.not_eq_true, silent]
  simp only [Classical.not_forall, Option.isSome_iff_ne_none, exists_prop]

theorem last_stage (task substituted : Task) (changes : Values) (stage : Stage) :
    (stagesIn ((itinerary task substituted changes).take stage.eventCount)).getLast? = some stage := by
  cases stage <;> rfl

theorem handler_position (stage : Stage) :
    Stage.invokeHandler.position ≤ stage.position ↔ 7 ≤ stage.eventCount := by
  cases stage <;> decide

/-- An invocation that is stopped before it stores anything. -/
theorem AllOrNothing.of_stopped {error : PipelineError} {substituted : Task}
    (told : conduct (pipeline.tell task) world = (.error error, later)) (early : error.stage.eventCount < 12)
    (handed : 7 ≤ error.stage.eventCount → pipeline.Hands task world substituted) :
    pipeline.AllOrNothing task world (.error error)
      ((itinerary task substituted SortedMap.empty).take error.stage.eventCount) where
  order := ⟨substituted, SortedMap.empty, callsIn_take ..⟩
  handed := by
    intro other member
    obtain ⟨rfl, reached⟩ := handled_mem_take.mp member
    exact handed reached
  stored := by
    intro instanceId changes
    rw [stored_mem_take, told]
    constructor
    · rintro ⟨-, reached⟩
      omega
    · rintro ⟨-, passage, _, impossible, -⟩
      cases impossible
  stages := stagesIn_take ..
  finished := by rintro outcome ⟨⟩
  blamed := by
    rintro _ ⟨⟩
    exact last_stage ..
  storing := by
    rintro _ ⟨⟩
    simp only [stored_mem_take]
    constructor
    · rintro ⟨_, _, -, reached⟩
      omega
    · intro persisting
      rw [persisting] at early
      exact absurd early (by decide)
  handling := by
    rintro _ ⟨⟩
    simp only [handled_mem_take, handler_position, exists_eq_left]

section Departed

variable {passage : Passage} {result : Except PipelineError Outcome} {events : List Event}

abbrev departed (task : Task) (passage : Passage) (events : List Event) : List Event :=
  (itinerary task passage.substituted passage.changes).take 11 ++ events

theorem handled_mem_departed {other : Task} (departure : Departure task passage result events) :
    .handled other ∈ departed task passage events ↔ other = passage.substituted := by
  rw [List.mem_append, handled_mem_take]
  cases departure <;> simp

theorem stored_mem_departed {instanceId : String} {changes : Values}
    (departure : Departure task passage result events) :
    .stored instanceId changes ∈ departed task passage events ↔
      instanceId = task.instanceId ∧ changes = passage.changes ∧ passage.changes.isEmpty = false := by
  rw [List.mem_append, stored_mem_take]
  cases departure <;> simp_all

/-- An invocation that comes to storing, and then to its end unless the changes are refused. -/
theorem AllOrNothing.of_departed (told : conduct (pipeline.tell task) world = (.ok passage, later))
    (handed : pipeline.Hands task world passage.substituted) (departure : Departure task passage result events) :
    pipeline.AllOrNothing task world result (departed task passage events) where
  order := by
    refine ⟨passage.substituted, passage.changes, ?_⟩
    cases departure with
    | unchanged idle => exact ⟨[.stored task.instanceId passage.changes], rfl⟩
    | stored changed => exact callsIn_take task passage.substituted passage.changes 13
    | refused changed blamed => exact callsIn_take task passage.substituted passage.changes 12
  handed := by
    intro other member
    rw [(handled_mem_departed departure).mp member]
    exact handed
  stored := by
    intro instanceId changes
    rw [stored_mem_departed departure, changed_iff told, told]
    constructor
    · rintro ⟨rfl, rfl, wrote⟩
      exact ⟨rfl, passage, later, rfl, rfl, wrote⟩
    · rintro ⟨rfl, _, _, ⟨⟩, rfl, wrote⟩
      exact ⟨rfl, rfl, wrote⟩
  stages := by
    cases departure with
    | unchanged idle => exact ⟨[], rfl⟩
    | stored changed => exact ⟨[], rfl⟩
    | refused changed blamed => exact stagesIn_take task passage.substituted passage.changes 12
  finished := by
    cases departure with
    | unchanged idle => exact fun _ _ => rfl
    | stored changed => exact fun _ _ => rfl
    | refused changed blamed => rintro outcome ⟨⟩
  blamed := by
    rintro error rfl
    cases departure with
    | refused changed blamed => exact blamed ▸ last_stage task passage.substituted passage.changes .persistIfChanged
  storing := by
    rintro error rfl
    have attempted : .stored task.instanceId passage.changes ∈ departed task passage events ↔ _ :=
      stored_mem_departed departure
    cases departure with
    | refused changed blamed => exact iff_of_true ⟨_, _, attempted.mpr ⟨rfl, rfl, changed⟩⟩ blamed
  handling := by
    rintro error rfl
    have reached := (handled_mem_departed departure).mpr rfl
    cases departure with
    | refused changed blamed => exact iff_of_true ⟨_, reached⟩ (blamed ▸ by decide)

end Departed

/-- An invocation calls its collaborators in order and at most once each, and it stores what the
scripts changed only after all else has succeeded. -/
theorem stores_all_or_nothing (pipeline : Pipeline (StateM σ)) (task : Task) :
    pipeline.execute task = pipeline.tell task >>= pipeline.leave task ∧
    ∀ world, ∃ result later log, conduct (pipeline.execute task) world = (result, later) ∧
      conduct (pipeline.recorded.execute task) (world, []) = (result, (later, log)) ∧
      pipeline.AllOrNothing task world result log := by
  refine ⟨pipeline.execute_eq_tell task, ?_⟩
  intro world
  simp only [execute_eq_tell]
  obtain ⟨reached, middle, events, leading, approach⟩ := tell_approaches pipeline task world
  cases approach with
  | @stopped error _ substituted early handed part =>
    subst part
    have stopping : Leads (pipeline.recorded.tell task >>= pipeline.recorded.leave task)
        (pipeline.tell task >>= pipeline.leave task) world (.error error) middle _ := leading.stop
    exact ⟨.error error, middle, _, stopping.1, stopping.2 [], .of_stopped leading.1 early handed⟩
  | @arrived passage _ handed whole =>
    subst whole
    obtain ⟨ended, last, others, leaving, departure⟩ := leave_departs pipeline task passage middle
    have departing := leading.bind leaving
    exact ⟨ended, last, _, departing.1, departing.2 [], .of_departed leading.1 handed departure⟩

end Pipeline
end ScriptedTask
