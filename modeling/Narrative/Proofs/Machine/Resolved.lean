import Narrative.Machine
import Narrative.Proofs.Unresolved

/-!
# The machine looks up no authored names

The machine knows its states by their kinds. Whatever it reports, it reports no name that nothing
was declared under.
-/

namespace Narrative

namespace SubMachine

/-- A switch of the sub-states. -/
theorem switchTo_resolved (sub : SubMachine) (next : SubKind) : (sub.switchTo next).Resolved := by
  unfold switchTo
  split
  · exact .bind (.note (by decide) _) (.pure _)
  · exact .bind (.note (by decide) _) (.pure _)

/-- A request of the current sub-state. -/
theorem request_resolved (sub : SubMachine) (next : SubKind) : (sub.request next).Resolved := by
  unfold request
  split
  · exact .bind (.note (by decide) _) (.pure _)
  · refine .bind ?_ (.pure _)
    unfold reportReplaced
    split
    · exact .pure _
    · exact .note (by decide) _

/-- The request of the current sub-state is met. -/
theorem processRequest_resolved (sub : SubMachine) : sub.processRequest.Resolved := by
  unfold processRequest
  split
  · exact .pure _
  · refine .bind (switchTo_resolved _ _) ?_
    split <;> exact .pure _

end SubMachine

namespace Machine

variable {ℓ : Type} (machine : Machine)

/-- A state is looked up by its kind. -/
theorem lookup_resolved (kind : StateKind) : (machine.lookup kind).Resolved := by
  unfold lookup
  split
  · exact .pure _
  · exact .bind (.note (by decide) _) (.pure _)

/-- The current state is left. -/
theorem exitCurrent_resolved : machine.exitCurrent.Resolved := by
  unfold exitCurrent
  dsimp only
  split
  · exact .pure _
  · split
    · exact .pure _
    · split
      · exact .bind (.optional (by decide) ..) (.pure _)
      · exact .pure _

/-- A state becomes the current one. -/
theorem changeTo_resolved (next : StateKind) : (machine.changeTo next).Resolved :=
  .bind (.optional (by decide) ..) (.pure _)

/-- A state becomes active. -/
theorem enter_resolved (kind : StateKind) : (machine.enter kind).Resolved := by
  unfold enter
  split
  · exact .pure _
  · exact .bind (.optional (by decide) ..) (.pure _)

/-- The loading state is made when it is needed. -/
theorem withLoading_resolved (target : StateKind) : (machine.withLoading target).Resolved := by
  unfold withLoading
  split
  · exact .pure _
  · exact .bind (.note (by decide) _) (.pure _)

/-- A state is entered at once. -/
theorem enterState_resolved (kind : StateKind) : (machine.enterState kind).Resolved := by
  refine .bind (machine.lookup_resolved kind) ?_
  split
  · exact .pure _
  · exact .bind (exitCurrent_resolved _) <| .bind (changeTo_resolved _ _) <|
      .bind (enter_resolved _ _) (.pure _)

variable [SceneLoader ℓ]

/-- A state waits for its scene, or is entered. -/
theorem loadOrEnter_resolved (kind : StateKind) (transition : Transition) (loader : ℓ) :
    (machine.loadOrEnter kind transition loader).Resolved := by
  unfold loadOrEnter
  split
  · exact .bind (.note (by decide) _) (.pure _)
  · exact .bind (enter_resolved _ _) (.pure _)

/-- The current state is left for another. -/
theorem moveTo_resolved (next : StateKind) (transition : Transition) (loader : ℓ) :
    (machine.moveTo next transition loader).Resolved :=
  .bind (exitCurrent_resolved _) <| .bind (changeTo_resolved _ _) (loadOrEnter_resolved ..)

/-- The current state is left for the loading state. -/
theorem moveThroughLoading_resolved (target : StateKind) (loader : ℓ) :
    (machine.moveThroughLoading target loader).Resolved :=
  .bind (exitCurrent_resolved _) <| .bind (withLoading_resolved _ _) <|
    .bind (changeTo_resolved _ _) (loadOrEnter_resolved ..)

/-- Another state is changed to. -/
theorem switchState_resolved (next : StateKind) (loader : ℓ) :
    (machine.switchState next loader).Resolved := by
  refine .bind (machine.lookup_resolved next) ?_
  split
  · exact .pure _
  · split
    · exact .bind (moveThroughLoading_resolved ..) (.pure _)
    · exact .bind (moveTo_resolved ..) (.pure _)

/-- Another state is changed to at once. -/
theorem enterScene_resolved (next : StateKind) (loader : ℓ) :
    (machine.enterScene next loader).Resolved := by
  refine .bind (machine.lookup_resolved next) ?_
  split
  · exact .pure _
  · exact .bind (moveTo_resolved ..) (.pure _)

/-- The scene of the current state is asked for. -/
theorem pollScene_resolved (loader : ℓ) : (machine.pollScene loader).Resolved := by
  unfold pollScene
  split
  · dsimp only
    split
    · exact .bind (enter_resolved _ _) (.pure _)
    · split
      · exact .bind (.note (by decide) _) (.pure _)
      · exact .pure _
  · exact .pure _

omit [SceneLoader ℓ] in
/-- The active state asks for a successor. -/
theorem request_resolved (next : Request) : (machine.request next).Resolved := by
  unfold request
  split
  · exact .bind (.note (by decide) _) (.pure _)
  · refine .bind ?_ (.pure _)
    unfold reportReplaced
    split
    · exact .pure _
    · exact .note (by decide) _

/-- The request of the current state is met. -/
theorem processRequest_resolved (loader : ℓ) : (machine.processRequest loader).Resolved := by
  unfold processRequest
  split
  · exact .pure _
  · refine .bind ?_ ?_
    · unfold fulfil
      split
      · exact switchState_resolved ..
      · exact enterScene_resolved ..
    · split <;> exact .pure _

end Machine

end Narrative
