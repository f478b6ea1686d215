import Mathlib.Data.List.Basic
import ScriptedTask.Proofs.Overlay
import ScriptedTask.Fragment
import ScriptedTask.Task.Basic

/-! Fragments among the inputs of a task. The script of a phase depends on its fragments alone,
however they are delivered, and what scripts see depends on no reserved name. -/

namespace ScriptedTask

/-- Every input in place of the value that its name stands for. -/
def Inputs.pairs (inputs : Inputs) : List (String × Json) := inputs.entries.map fun entry => (entry.1, entry.2.value)

theorem Inputs.distinct_pairs (inputs : Inputs) : (inputs.pairs.map Prod.fst).Nodup := by
  have names : inputs.pairs.map Prod.fst = inputs.entries.map Prod.fst := by simp [pairs]
  rw [names]
  exact inputs.distinct

/-- A fragment of the phase with its name. -/
def Fragment.piece? (phase : Phase) (pair : String × Json) : Option (String × String) :=
  (Fragment.text? phase pair.1 pair.2).map fun text => (pair.1, text)

/-- The fragments of a phase in the order of delivery. -/
def Inputs.fragments (inputs : Inputs) (phase : Phase) : List (String × String) :=
  inputs.pairs.filterMap (Fragment.piece? phase)

namespace Fragment

theorem belongsTo_iff {phase : Phase} {name : String} :
    belongsTo phase name = true ↔ phase.word.toList <+: name.toList := List.isPrefixOf_iff_prefix

theorem piece?_eq_some_iff {phase : Phase} {pair : String × Json} {piece : String × String} :
    piece? phase pair = some piece ↔ pair = (piece.1, .string piece.2) ∧ phase.word.toList <+: piece.1.toList := by
  obtain ⟨name, value⟩ := pair
  obtain ⟨other, text⟩ := piece
  cases value with
  | string found =>
    rw [← belongsTo_iff]
    by_cases belongs : belongsTo phase name = true
    · simp only [piece?, text?, belongs, if_true, Option.map_some, Option.some.injEq, Prod.mk.injEq, Json.string.injEq]
      constructor
      · rintro ⟨rfl, rfl⟩
        exact ⟨⟨rfl, rfl⟩, belongs⟩
      · exact And.left
    · simp only [piece?, text?, belongs, Bool.false_eq_true, if_false, Option.map_none]
      refine iff_of_false nofun ?_
      rintro ⟨⟨⟩, named⟩
      exact belongs named
  | _ => exact iff_of_false nofun fun both => nomatch both.1

end Fragment

namespace Inputs

/-- The fragments of the phase, joined in ascending order of their names, are the script. -/
def Cuts (inputs : Inputs) (phase : Phase) (script : String) : Prop :=
  ∃ pieces : List (String × String), (pieces.Pairwise fun first second => first.1 < second.1) ∧
    pieces.Perm (inputs.fragments phase) ∧ String.join (pieces.map Prod.snd) = script

theorem cuts_assemble (inputs : Inputs) (phase : Phase) : inputs.Cuts phase (Fragment.assemble inputs.values phase) := by
  refine ⟨inputs.values.toList.filterMap (Fragment.piece? phase), ?_, ?_, ?_⟩
  · refine inputs.values.pairwise_toList.filterMap (Fragment.piece? phase) ?_
    intro first second below one found other located
    rw [(Fragment.piece?_eq_some_iff.mp found).1, (Fragment.piece?_eq_some_iff.mp located).1] at below
    exact below
  · exact (Ascending.toList_ofList inputs.distinct_pairs).filterMap (Fragment.piece? phase)
  · simp only [Fragment.assemble, List.map_filterMap, Fragment.piece?, Option.map_map]
    congr 2
    funext entry
    cases Fragment.text? phase entry.1 entry.2 <;> rfl

theorem Cuts.unique {inputs : Inputs} {phase : Phase} {first second : String} (one : inputs.Cuts phase first)
    (other : inputs.Cuts phase second) : first = second := by
  obtain ⟨pieces, sorted, held, rfl⟩ := one
  obtain ⟨others, ascending, kept, rfl⟩ := other
  have same : pieces = others := by
    refine List.Perm.eq_of_pairwise ?_ sorted ascending (held.trans kept.symm)
    intro first second _ _ below above
    exact absurd (String.lt_trans below above) (String.lt_irrefl _)
  rw [same]

theorem assemble_congr {left right : Inputs} {phase : Phase} (same : left.fragments phase = right.fragments phase) :
    Fragment.assemble left.values phase = Fragment.assemble right.values phase := by
  have cut := left.cuts_assemble phase
  rw [Cuts, same] at cut
  exact Cuts.unique cut (right.cuts_assemble phase)

end Inputs

namespace Fragment

theorem belongsTo_once {phase other : Phase} {name : String} (first : belongsTo phase name = true)
    (second : belongsTo other name = true) : phase = other := by
  rw [belongsTo_iff] at first second
  have nested := List.prefix_or_prefix_of_prefix first second
  cases phase <;> cases other
  · rfl
  · exact absurd nested (by decide)
  · exact absurd nested (by decide)
  · rfl

theorem reserved_of_belongsTo {phase : Phase} {name : String} (belongs : belongsTo phase name = true) :
    isReserved name = true := by
  cases phase <;> simp [isReserved, belongs]

theorem text?_of_not_belongsTo {phase : Phase} {name : String} (value : Json)
    (foreign : belongsTo phase name = false) : text? phase name value = none := by
  cases value <;> simp [text?, foreign]

end Fragment

namespace Inputs

/-- The inputs whose names are not reserved, in the order of delivery. -/
def unreserved (inputs : Inputs) : List (String × TaskInput) :=
  inputs.entries.filter fun entry => !Fragment.isReserved entry.1

/-- All inputs but the fragments of a phase, in the order of delivery. -/
def beside (inputs : Inputs) (phase : Phase) : List (String × TaskInput) :=
  inputs.entries.filter fun entry => (Fragment.text? phase entry.1 entry.2.value).isNone

theorem strip_values (inputs : Inputs) :
    Fragment.strip inputs.values =
      SortedMap.ofList (inputs.unreserved.map fun entry => (entry.1, entry.2.value)) := by
  have dropped := Ascending.filter_ofList (fun name => !Fragment.isReserved name) inputs.pairs
  rw [pairs, List.filter_map] at dropped
  exact dropped

theorem unreserved_beside (inputs : Inputs) (phase : Phase) :
    inputs.unreserved = (inputs.beside phase).filter fun entry => !Fragment.isReserved entry.1 := by
  rw [unreserved, beside, List.filter_filter]
  refine List.filter_congr fun entry _ => ?_
  cases belongs : Fragment.belongsTo phase entry.1 with
  | true => simp [Fragment.reserved_of_belongsTo belongs]
  | false => simp [Fragment.text?_of_not_belongsTo entry.2.value belongs]

theorem fragments_beside (inputs : Inputs) {phase other : Phase} (differ : phase ≠ other) :
    inputs.fragments other =
      ((inputs.beside phase).map fun entry => (entry.1, entry.2.value)).filterMap (Fragment.piece? other) := by
  rw [fragments, pairs, beside, List.filterMap_map, List.filterMap_map, List.filterMap_filter]
  congr 1
  funext entry
  cases belongs : Fragment.belongsTo phase entry.1 with
  | true =>
    have foreign : Fragment.belongsTo other entry.1 = false := by
      rw [← Bool.not_eq_true]
      exact fun again => differ (Fragment.belongsTo_once belongs again)
    simp [Fragment.piece?, Fragment.text?_of_not_belongsTo _ foreign]
  | false => simp [Fragment.text?_of_not_belongsTo entry.2.value belongs]

end Inputs

/-- A script in pieces. Each has a name of its own under the word of the phase, and the names ascend, by the
code points of their characters. -/
structure Splitting (phase : Phase) where
  pieces : List (String × String)
  named : ∀ piece ∈ pieces, phase.word.toList <+: piece.1.toList
  ascending : pieces.Pairwise fun first second => first.1 < second.1

namespace Splitting

variable {phase : Phase}

def script (splitting : Splitting phase) : String := String.join (splitting.pieces.map Prod.snd)

/-- The pieces as values of inputs. -/
def sent (splitting : Splitting phase) : List (String × Json) :=
  splitting.pieces.map fun piece => (piece.1, .string piece.2)

/-- The inputs are the pieces and others, in any order and under any type tags. No other is a string under the
word of the phase. -/
def Delivered (splitting : Splitting phase) (inputs : Inputs) : Prop :=
  ∃ others : List (String × Json),
    inputs.pairs.Perm (splitting.sent ++ others) ∧
    ∀ other ∈ others, ∀ text, other.2 = .string text → ¬phase.word.toList <+: other.1.toList

theorem Delivered.fragments {splitting : Splitting phase} {inputs : Inputs} (delivered : splitting.Delivered inputs) :
    splitting.pieces.Perm (inputs.fragments phase) := by
  obtain ⟨others, held, foreign⟩ := delivered
  have own : splitting.sent.filterMap (Fragment.piece? phase) = splitting.pieces.map id := by
    rw [sent, List.filterMap_map]
    apply List.filterMap_eq_map_iff_forall_eq_some.mpr
    intro piece member
    exact Fragment.piece?_eq_some_iff.mpr ⟨rfl, splitting.named piece member⟩
  have none : others.filterMap (Fragment.piece? phase) = [] := by
    apply List.filterMap_eq_nil_iff.mpr
    intro other member
    rw [Option.eq_none_iff_forall_ne_some]
    intro piece found
    obtain ⟨same, named⟩ := Fragment.piece?_eq_some_iff.mp found
    cases same
    exact foreign _ member piece.2 rfl named
  have kept := held.filterMap (Fragment.piece? phase)
  rw [List.filterMap_append, own, none, List.append_nil, List.map_id] at kept
  exact kept.symm

theorem Delivered.cuts {splitting : Splitting phase} {inputs : Inputs} (delivered : splitting.Delivered inputs) :
    inputs.Cuts phase splitting.script := ⟨splitting.pieces, splitting.ascending, delivered.fragments, rfl⟩

/-- The fragments among the inputs are inputs as they were sent. -/
theorem pairs_of_fragments (inputs : Inputs) (phase : Phase) :
    ((inputs.fragments phase).map fun piece => (piece.1, Json.string piece.2)) =
      inputs.pairs.filter fun pair => (Fragment.piece? phase pair).isSome := by
  rw [Inputs.fragments, List.map_filterMap, ← List.filterMap_eq_filter]
  apply List.filterMap_congr
  intro pair _
  cases found : Fragment.piece? phase pair with
  | none => simp [Option.guard, found]
  | some piece => simp [Option.guard, found, ← (Fragment.piece?_eq_some_iff.mp found).1]

theorem exists_delivered {inputs : Inputs} {script : String} (cuts : inputs.Cuts phase script) :
    ∃ splitting : Splitting phase, splitting.Delivered inputs ∧ splitting.script = script := by
  obtain ⟨pieces, ascending, held, joined⟩ := cuts
  have named : ∀ piece ∈ pieces, phase.word.toList <+: piece.1.toList := by
    intro piece member
    obtain ⟨pair, -, found⟩ := List.mem_filterMap.mp (held.mem_iff.mp member)
    exact (Fragment.piece?_eq_some_iff.mp found).2
  refine ⟨⟨pieces, named, ascending⟩, ⟨inputs.pairs.filter fun pair => !(Fragment.piece? phase pair).isSome, ?_, ?_⟩, joined⟩
  · have sent := held.map fun piece => (piece.1, Json.string piece.2)
    rw [pairs_of_fragments] at sent
    exact (List.filter_append_perm _ inputs.pairs).symm.trans (sent.symm.append_right _)
  · rintro ⟨name, value⟩ member text same belongs
    have found : Fragment.piece? phase (name, value) = some (name, text) :=
      Fragment.piece?_eq_some_iff.mpr ⟨Prod.ext rfl same, belongs⟩
    have missing := (List.mem_filter.mp member).2
    simp [found] at missing

/-- Assembling undoes splitting: whatever else is delivered and in whatever order, the script of a phase is its
pieces joined. Any inputs are some script in pieces. -/
theorem assembling_undoes_splitting (inputs : Inputs) (phase : Phase) :
    (∀ splitting : Splitting phase, splitting.Delivered inputs →
      Fragment.assemble inputs.values phase = splitting.script) ∧
    ∃ splitting : Splitting phase, splitting.Delivered inputs := by
  have assembled := inputs.cuts_assemble phase
  constructor
  · intro splitting delivered
    exact assembled.unique delivered.cuts
  · obtain ⟨splitting, delivered, -⟩ := exists_delivered assembled
    exact ⟨splitting, delivered⟩

/-- Names are compared as texts, so that ten comes before two. -/
def numbered : Splitting .pre where
  pieces := [("prescript", "a"), ("prescript_10", "b"), ("prescript_2", "c"), ("prescript\u00e9", "d")]
  named := by decide
  ascending := by decide

def jumbled : Inputs where
  entries := [("postscript", ⟨.string "x", none⟩), ("prescript_flag", ⟨.bool true, some "Boolean"⟩),
    ("prescript\u00e9", ⟨.string "d", none⟩), ("prescript_2", ⟨.string "c", some "String"⟩),
    ("prescript_10", ⟨.string "b", none⟩), ("prescript", ⟨.string "a", none⟩)]
  distinct := by decide

theorem numbered_is_assembled :
    numbered.Delivered jumbled ∧ Fragment.assemble jumbled.values .pre = "abcd" := by
  have delivered : numbered.Delivered jumbled := by
    have turned : jumbled.pairs =
        (numbered.sent ++ [("prescript_flag", Json.bool true), ("postscript", Json.string "x")]).reverse := rfl
    refine ⟨_, turned ▸ List.reverse_perm _, ?_⟩
    intro other member text same
    rcases List.mem_cons.mp member with flag | member
    · rw [flag] at same
      cases same
    · rw [List.mem_singleton.mp member]
      decide
  exact ⟨delivered, (assembling_undoes_splitting jumbled .pre).1 numbered delivered⟩

end Splitting
end ScriptedTask
