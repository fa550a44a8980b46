import Narrative.Format.Basic

/-!
# Scenes

A state with a scene is entered once its scene is loaded. Loading is asked for once and answers
with a ticket; the phase of the load is asked for by that ticket as often as needed.
-/

namespace Narrative

/-- How one scene gives way to another. -/
inductive Transition where
  /-- Through a dark screen. -/
  | fade
  /-- At once. -/
  | cut
  deriving DecidableEq, Inhabited, Repr

instance : Enumerated Transition where
  all := [.fade, .cut]
  name
    | .fade => "Fade"
    | .cut => "Cut"

/-- The number of a load. -/
abbrev Ticket := Nat

/-- How far a load has come. -/
inductive Phase where
  /-- Not yet there. -/
  | loading
  /-- The scene is there, its entrance is not over. -/
  | sceneReady
  /-- All is done. -/
  | finished
  /-- It will never be there. -/
  | failed
  deriving DecidableEq, Inhabited, Repr

namespace Phase

instance : Enumerated Phase where
  all := [loading, sceneReady, finished, failed]
  name
    | loading => "Loading"
    | sceneReady => "SceneReady"
    | finished => "Finished"
    | failed => "Failed"

/-- Whether the state may be entered. -/
def isReady : Phase → Bool
  | sceneReady => true
  | finished => true
  | _ => false

end Phase

/-- What loads scenes. -/
class SceneLoader (ℓ : Type) where
  /-- Ask for a scene. -/
  load : ℓ → String → Transition → Ticket × ℓ
  /-- Ask how far a load has come. -/
  poll : ℓ → Ticket → Phase × ℓ

end Narrative
