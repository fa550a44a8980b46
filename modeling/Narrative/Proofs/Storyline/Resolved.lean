import Narrative.Proofs.Game.Plays
import Narrative.Proofs.Lint.References

/-!
# The storyline meets declared names

A walk through a scenario whose names resolve evaluates conditions on cells that the flags have,
raises flags that are declared, and asks for dialogs that are stored.
-/

namespace Narrative

open Lint (Target)

/-- A step that plays a dialog plays one of the bundle. -/
def StoryStep.Stored (bundle : Bundle) (step : StoryStep) : Prop :=
  ∀ name ending, step = .playDialog name ending → ∃ dialog, bundle.dialog name = .ok dialog

namespace Storyline

/-- The start of a scenario is looked for. -/
theorem startOf_resolved (graph : ScenarioGraph) : (startOf graph).Resolved := by
  unfold startOf Graph.start
  cases graph.start? with
  | some node => exact .pure (some node)
  | none => exact .bind (GraphError.missingStart_resolved graph.name) (.pure none)

/-- A scenario is loaded. -/
theorem load_resolved (storyline : Storyline) (graph : Option ScenarioGraph) :
    (storyline.load graph).Resolved := by
  unfold load
  cases graph with
  | some graph => exact .bind (startOf_resolved graph) (.pure _)
  | none =>
    have begun : "no scenario graph is set".toList.head? = some 'n' := rfl
    exact .bind (.worded begun (by decide) _ _) (.pure _)

/-- A scenario starts over. -/
theorem reset_resolved (storyline : Storyline) : storyline.reset.Resolved := by
  unfold reset
  cases storyline.graph with
  | some graph => exact .bind (startOf_resolved graph) (.pure _)
  | none => exact .pure _

variable {bundle : Bundle} {graph : ScenarioGraph} {flags : Flags}

/-- A node is left. -/
theorem leave_resolved (resolves : graph.Resolves bundle Target.ofScenarioNode)
    (covers : flags.Covers bundle.flags) (node : NodeId) : (leave graph node flags).Resolved := by
  have wayOut : (wayOut graph node flags).Resolved := by
    unfold wayOut
    split
    · next options known =>
      have has := resolves node (.branch options) known
      refine .bind (Branch.resolve_resolved covers fun option => has.of_mem) ?_
      split
      · exact .pure _
      · exact .bind (.note (by decide) _) (.pure _)
    · exact .pure _
  unfold leave
  refine .bind wayOut ?_
  split
  · exact .pure _
  · split
    · exact .pure _
    · exact .bind (.note (by decide) _) (.pure _)

/-- A node is passed. -/
theorem pass_resolved (covers : flags.Covers bundle.flags) {kind : ScenarioNode}
    (has : bundle.HasAll (Target.ofScenarioNode kind)) : (pass kind flags).Resolved := by
  cases kind with
  | condition flag =>
    exact .map (Flags.Write.apply_resolved (.activate flag) covers has.head) Prod.snd
  | _ => exact .pure flags

/-- What a node asks for is stored if its names resolve. -/
theorem stepOf_stored {kind : ScenarioNode} {step : StoryStep} (asks : stepOf kind = some step)
    (has : bundle.HasAll (Target.ofScenarioNode kind)) : step.Stored bundle := by
  intro name ending plays
  subst plays
  cases kind with
  | event dialog =>
    obtain ⟨rfl, rfl⟩ := StoryStep.playDialog.inj (Option.some.inj asks)
    exact Bundle.exists_dialog has.head
  | ending dialog =>
    obtain ⟨rfl, rfl⟩ := StoryStep.playDialog.inj (Option.some.inj asks)
    exact Bundle.exists_dialog has.head
  | _ => cases asks

/-- A walk meets declared names, and comes to a step that is stored. -/
theorem walk_resolved (resolves : graph.Resolves bundle Target.ofScenarioNode)
    (covers : flags.Covers bundle.flags) (tracing : Tracing) (bound : Nat) (node : NodeId) :
    (walk tracing graph bound node flags).ResolvedTo fun arrival =>
      arrival.step.Stored bundle := by
  induction bound generalizing node flags with
  | zero => exact .after (.note (by decide) _) (.pure nofun)
  | succ bound ih =>
    unfold walk
    refine .after (leave_resolved resolves covers node) ?_
    cases (leave graph node flags).value with
    | none => exact .pure nofun
    | some next =>
      dsimp only
      cases known : graph.kind? next with
      | none => exact .pure nofun
      | some kind =>
        refine .after (.optional (by decide) _ _ _) ?_
        have names := resolves next kind known
        cases asks : stepOf kind with
        | some step => exact .pure (stepOf_stored asks names)
        | none =>
          -- The node is passed, which may raise a flag but takes no cell away.
          have passed : (pass kind flags).value.Covers bundle.flags :=
            (pass_evolves kind flags).covers.trans covers
          exact .after (pass_resolved covers names) (ih passed next)

/-- An advance meets declared names, and takes a step that is stored. -/
theorem advance_resolved {storyline : Storyline}
    (resolves : ∀ graph, storyline.graph = some graph →
      graph.Resolves bundle Target.ofScenarioNode)
    (covers : flags.Covers bundle.flags) :
    (storyline.advance flags).ResolvedTo fun came => came.1.Stored bundle := by
  unfold advance
  split
  · next graph node authored _ =>
    exact .bind (walk_resolved (resolves graph authored) covers _ _ node) fun stored => .pure stored
  · dsimp only
    split
    · exact .after (.note (by decide) _) (.pure nofun)
    · exact .pure nofun

end Storyline

end Narrative
