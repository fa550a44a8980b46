import Narrative.Scene

/-!
# Scene loaders

The instant loader has every scene at once. The manual loader leaves each load where it is until
it is told otherwise. Both number their loads from zero, and a ticket that they never gave is a
failed load.
-/

namespace Narrative

/-- A loader that has every scene at once. -/
structure InstantLoader where
  /-- The scenes asked for, in order. -/
  loaded : List String
  deriving DecidableEq, Repr

namespace InstantLoader

/-- A loader that nothing was asked of. -/
def empty : InstantLoader := ⟨[]⟩

instance : SceneLoader InstantLoader where
  load loader scene _ := (loader.loaded.length, ⟨loader.loaded ++ [scene]⟩)
  poll loader ticket := (if ticket < loader.loaded.length then .finished else .failed, loader)

end InstantLoader

/-- A load that a manual loader keeps. -/
structure Load where
  /-- The scene. -/
  scene : String
  /-- How it is to be shown. -/
  transition : Transition
  /-- How far it has come. -/
  phase : Phase
  deriving DecidableEq, Repr

/-- A loader whose loads move only when told. -/
structure ManualLoader where
  /-- The loads in the order of their tickets. -/
  loads : List Load
  deriving DecidableEq, Repr

namespace ManualLoader

/-- A loader that nothing was asked of. -/
def empty : ManualLoader := ⟨[]⟩

instance : SceneLoader ManualLoader where
  load loader scene transition :=
    (loader.loads.length, ⟨loader.loads ++ [⟨scene, transition, .loading⟩]⟩)
  poll loader ticket := ((loader.loads[ticket]?).elim .failed Load.phase, loader)

/-- The scenes asked for, in order. -/
def requested (loader : ManualLoader) : List String := loader.loads.map Load.scene

/-- How they are to be shown. -/
def transitions (loader : ManualLoader) : List Transition := loader.loads.map Load.transition

/-- The number of loads that are under way. -/
def inFlight (loader : ManualLoader) : Nat :=
  loader.loads.countP fun load => load.phase == .loading

/-- The scene of one load is there. -/
def markReady (loader : ManualLoader) (ticket : Ticket) : ManualLoader :=
  ⟨loader.loads.modify ticket fun load => { load with phase := .sceneReady }⟩

/-- Every load that is under way ends in one phase. -/
def settle (loader : ManualLoader) (phase : Phase) : ManualLoader :=
  ⟨loader.loads.map fun load =>
    if load.phase = .loading then { load with phase := phase } else load⟩

/-- Every load that is under way succeeds. -/
def completeAll (loader : ManualLoader) : ManualLoader := loader.settle .finished

/-- Every load that is under way fails. -/
def failAll (loader : ManualLoader) : ManualLoader := loader.settle .failed

end ManualLoader

end Narrative
