import ScriptedTask.Proofs.Passage

/-! Phases without a script. A blank script is not run at all, so all that can go wrong is that queries
take each other's names or those of capabilities. -/

namespace ScriptedTask

/-- No query takes the global of a capability or that of another query. -/
structure Query.Compatible (queries : List Query) : Prop where
  distinct : (queries.map Query.target).Nodup
  unreserved : ∀ query ∈ queries, query.target ∉ capabilityTargets

namespace Script

theorem checkTargets_ok_iff {seen targets : List String} :
    checkTargets seen targets = .ok () ↔
      targets.Nodup ∧ (∀ target ∈ targets, target ∉ capabilityTargets) ∧ ∀ target ∈ targets, target ∉ seen := by
  induction targets generalizing seen with
  | nil => simp [checkTargets]
  | cons target rest ih =>
    rw [checkTargets]
    by_cases reserved : target ∈ capabilityTargets
    · simp [reserved]
    by_cases known : target ∈ seen
    · simp [reserved, known]
    rw [if_neg (by simpa using reserved), if_neg (by simpa using known), ih, List.nodup_cons, List.forall_mem_cons,
      List.forall_mem_cons]
    constructor
    · intro ⟨distinct, unreserved, fresh⟩
      refine ⟨⟨?_, distinct⟩, ⟨reserved, unreserved⟩, known, ?_⟩
      · intro again
        exact fresh target again List.mem_cons_self
      · intro other member seenBefore
        exact fresh other member (List.mem_cons_of_mem target seenBefore)
    · intro ⟨⟨once, distinct⟩, ⟨_, unreserved⟩, _, fresh⟩
      refine ⟨distinct, unreserved, ?_⟩
      intro other member again
      rcases List.mem_cons.mp again with same | seenBefore
      · exact once (same ▸ member)
      · exact fresh other member seenBefore

end Script

theorem Query.Compatible.checked {queries : List Query} (compatible : Query.Compatible queries) :
    Script.checkTargets [] (queries.map Query.target) = .ok () := by
  refine Script.checkTargets_ok_iff.mpr ⟨compatible.distinct, ?_, nofun⟩
  intro target member
  obtain ⟨query, listed, rfl⟩ := List.mem_map.mp member
  exact compatible.unreserved query listed

namespace Pipeline

variable {m : Type → Type} [Monad m] {pipeline : Pipeline m}

theorem tellPhase_blank [LawfulMonad m] (compatible : Query.Compatible pipeline.queries) {phase : Phase} {inputs : Values}
    (blank : Text.isBlankText (Fragment.assemble inputs phase) = true) (snapshot outputs : Values) (token : TokenCache) :
    pipeline.tellPhase phase inputs snapshot outputs token = pure ([], ⟨SortedMap.empty, outputs⟩, token) := by
  have silent : Script.converse pipeline.interpreter pipeline.settings pipeline.tokens (Fragment.assemble inputs phase)
      (pipeline.session inputs snapshot outputs token) =
        pure ([], .ok (), pipeline.session inputs snapshot outputs token) := by
    simp only [Script.converse, session, compatible.checked, blank, if_true]
  rw [tellPhase, silent, pure_bind]
  rfl

theorem runPhase_blank [LawfulMonad m] (compatible : Query.Compatible pipeline.queries) {phase : Phase} {inputs : Values}
    (blank : Text.isBlankText (Fragment.assemble inputs phase) = true) (snapshot outputs : Values) (token : TokenCache) :
    pipeline.runPhase phase inputs snapshot outputs token = pure (⟨SortedMap.empty, outputs⟩, token) := by
  rw [runPhase_eq_tellPhase, tellPhase_blank compatible blank, map_pure]

end Pipeline
end ScriptedTask
