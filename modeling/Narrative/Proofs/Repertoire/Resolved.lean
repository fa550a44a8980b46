import Narrative.Proofs.Lint.References
import Narrative.Proofs.Repertoire.Asking

/-!
# A repertoire meets declared names

A character whose names resolve is asked without meeting a cell or an offer graph that is not
there, and what it offers is stored. That holds of what it was asked before, too, since it offers
that until something else is accepted.
-/

namespace Narrative.Repertoire

open Lint (Target)

variable {bundle : Bundle} {graph : OfferGraph} {flags : Flags}

/-- A node of an offer graph is left. -/
theorem wayOut_resolved (covers : flags.Covers bundle.flags) {kind : OfferNode}
    (has : bundle.HasAll (Target.ofOfferNode kind)) : (wayOut flags kind).Resolved := by
  cases kind with
  | branch options => exact .map (Branch.resolve_resolved covers fun option => has.of_mem) _
  | _ => exact .pure _

/-- A walk meets declared names. -/
theorem walk_resolved (resolves : graph.Resolves bundle Target.ofOfferNode)
    (covers : flags.Covers bundle.flags) (tracing : Tracing) (bound : Nat) (node : NodeId) :
    (walk tracing graph flags bound node).Resolved := by
  induction bound generalizing node with
  | zero => exact .bind (.note (by decide) _) (.pure _)
  | succ bound ih =>
    unfold walk
    cases known : graph.kind? node with
    | none => exact .pure _
    | some kind =>
      refine .bind (wayOut_resolved covers (resolves node kind known)) ?_
      refine .bind (.optional (by decide) _ _ _) ?_
      split
      · next dialog guard found =>
        have has := resolves _ (.content dialog guard) found
        refine .bind (Branch.satisfied_resolved covers has.left) ?_
        split <;> exact .pure _
      · split
        · exact .bind (.note (by decide) _) (.pure _)
        · exact ih _
      · exact .pure _

/-- A dialog that a walk accepts is stored. -/
theorem walk_stored (resolves : graph.Resolves bundle Target.ofOfferNode) (tracing : Tracing)
    (flags : Flags) (bound : Nat) (node : NodeId) :
    ∀ name, (walk tracing graph flags bound node).value.2 = some name →
      ∃ dialog, bundle.dialog name = .ok dialog := by
  -- A walk that accepts nothing has no name to look for.
  have refused : ∀ name, none = some name → ∃ dialog, bundle.dialog name = .ok dialog :=
    fun _ accepted => absurd accepted.symm (Option.some_ne_none _)
  induction bound generalizing node with
  | zero => exact refused
  | succ bound ih =>
    unfold walk
    cases known : graph.kind? node with
    | none => exact refused
    | some kind =>
      dsimp only
      rw [Logged.value_bind, Logged.value_bind]
      split
      · next dialog guard found =>
        rw [Logged.value_bind]
        split
        · intro name accepted
          obtain rfl := Option.some.inj accepted
          have has := resolves _ (.content dialog guard) found
          exact Bundle.exists_dialog has.right.head
        · exact refused
      · split
        · exact refused
        · exact ih _
      · exact refused

/-- A repertoire whose characters offer stored dialogs. -/
def Stored (repertoire : Repertoire) (bundle : Bundle) : Prop :=
  ∀ character name, repertoire.active? character = some name →
    ∃ dialog, bundle.dialog name = .ok dialog

variable {repertoire : Repertoire}

/-- A character that was never asked offers nothing. -/
theorem empty_stored (tracing : Tracing) (bundle : Bundle) : (empty tracing).Stored bundle := nofun

/-- The offer graphs of a selection are looked through. -/
theorem applicable_resolved (covers : flags.Covers bundle.flags) {selection : Selection}
    (has : bundle.HasAll (selection.entries.flatMap Target.ofEntry)) :
    (applicable selection flags).Resolved := by
  refine .bind (Branch.resolve_resolved covers fun entry among => (has.of_mem among).left) ?_
  split <;> exact .pure _

/-- The offer graph that applies is one of the selection. -/
theorem applicable_among {selection : Selection} {entry : SelectionEntry}
    (applies : (applicable selection flags).value = some entry) : entry ∈ selection.entries := by
  unfold applicable at applies
  rw [Logged.value_bind] at applies
  split at applies
  · exact List.mem_of_getElem? applies
  · cases applies

/-- A character walks on in an offer graph. -/
theorem stepIn_resolved (resolves : graph.Resolves bundle Target.ofOfferNode)
    (covers : flags.Covers bundle.flags) (repertoire : Repertoire) (character name : String)
    (node : NodeId) : (repertoire.stepIn character name graph node flags).Resolved := by
  unfold stepIn
  refine .bind (walk_resolved resolves covers _ _ _) ?_
  dsimp only
  split
  · refine .bind (.optional (by decide) _ _ _) ?_
    split
    · exact .bind (.note (by decide) _) (.pure _)
    · exact .pure _
  · split
    · exact .bind (.note (by decide) _) (.pure _)
    · exact .pure _

/-- The offer graph that applies to a character is there. -/
theorem applicable_found (resolves : bundle.Resolves) {character : String} {selection : Selection}
    (known : bundle.characters.get? character = some selection) {entry : SelectionEntry}
    (applies : (applicable selection flags).value = some entry) :
    ∃ graph, bundle.offers.get? entry.graph = some graph := by
  have has := (resolves.characters character selection known).of_mem (applicable_among applies)
  exact Option.isSome_iff_exists.1 has.right.head

/-- A character is asked without meeting a name that nothing was declared under. -/
theorem select_resolved (resolves : bundle.Resolves) (covers : flags.Covers bundle.flags)
    (repertoire : Repertoire) (character : String) :
    (repertoire.select bundle character flags).Resolved := by
  unfold select
  cases known : bundle.characters.get? character with
  | none => exact .bind (.note (by decide) _) (.pure _)
  | some selection =>
    refine .bind (applicable_resolved covers (resolves.characters character selection known)) ?_
    cases applies : (applicable selection flags).value with
    | none => exact .bind (.note (by decide) _) (.pure _)
    | some entry =>
      obtain ⟨graph, found⟩ := applicable_found resolves known applies
      dsimp only
      rw [found]
      dsimp only
      split
      · exact .bind (GraphError.missingStart_resolved graph.name) (.pure _)
      · exact stepIn_resolved (resolves.offers _ graph found) covers _ _ _ _

/-- What a character offers after it walked on is stored, whatever the flags are: it was accepted on
the way, or was offered before. -/
theorem stepIn_stored (resolves : graph.Resolves bundle Target.ofOfferNode)
    (stored : repertoire.Stored bundle) (character name : String) (node : NodeId) (flags : Flags) :
    let came := (repertoire.stepIn character name graph node flags).value
    (∀ offer, came.1 = some offer → ∃ dialog, bundle.dialog offer = .ok dialog) ∧
      came.2.Stored bundle := by
  rw [stepIn_value]
  let accepted := (walk repertoire.tracing graph flags (graph.size + 1) node).value
  have offers : ∀ offer, accepted.2.or (repertoire.thread character).active = some offer →
      ∃ dialog, bundle.dialog offer = .ok dialog := by
    intro offer same
    obtain now | ⟨-, before⟩ := Option.or_eq_some_iff.1 same
    · exact walk_stored resolves _ flags _ node offer now
    · exact stored character offer before
  refine ⟨offers, fun other offer same => ?_⟩
  unfold active? at same
  by_cases own : other = character
  · subst own
    rw [thread_withThread] at same
    exact offers offer same
  · rw [thread_withThread_of_ne own] at same
    exact stored other offer same

/-- What a character offers is stored if what it offered before is. -/
theorem select_stored (resolves : bundle.Resolves) (stored : repertoire.Stored bundle)
    (character : String) (flags : Flags) :
    let came := (repertoire.select bundle character flags).value
    (∀ offer, came.1 = some offer → ∃ dialog, bundle.dialog offer = .ok dialog) ∧
      came.2.Stored bundle := by
  unfold select
  split
  · exact ⟨nofun, stored⟩
  · rw [Logged.value_bind]
    split
    · exact ⟨stored character, stored⟩
    · split
      · exact ⟨nofun, stored⟩
      · next graph found =>
        split
        · exact ⟨nofun, stored⟩
        · exact stepIn_stored (resolves.offers _ graph found) stored _ _ _ flags

/-- A character is asked under some flags, and all names that it comes by are declared. -/
structure Answers (repertoire : Repertoire) (bundle : Bundle) (flags : Flags)
    (character : String) : Prop where
  /-- Nothing is reported about a name that nothing was declared under. -/
  resolved : (repertoire.select bundle character flags).Resolved
  /-- The offer graph that applies is there. -/
  graph : ∀ selection entry, bundle.characters.get? character = some selection →
    (applicable selection flags).value = some entry →
      ∃ graph, bundle.offers.get? entry.graph = some graph
  /-- The dialog that is offered is stored. -/
  offer : ∀ name, (repertoire.select bundle character flags).value.1 = some name →
    ∃ dialog, bundle.dialog name = .ok dialog

/-- Whoever is asked, all names are declared. -/
theorem select_answers (resolves : bundle.Resolves) (stored : repertoire.Stored bundle)
    (covers : flags.Covers bundle.flags) (character : String) :
    repertoire.Answers bundle flags character where
  resolved := select_resolved resolves covers repertoire character
  graph _ _ known := applicable_found resolves known
  offer := (select_stored resolves stored character flags).1

end Narrative.Repertoire
