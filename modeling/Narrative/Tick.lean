import Narrative.Duration
import Narrative.Format.Record

/-!
# Ticks

Time passes in ticks. A tick says how much time has passed and what the player presses.
-/

namespace Narrative

/-- What the player presses. -/
structure Input where
  /-- Go on, or choose the highlighted option. -/
  confirm : Bool
  /-- Highlight the option above. -/
  up : Bool
  /-- Highlight the option below. -/
  down : Bool
  deriving DecidableEq, Repr

namespace Input

/-- Nothing pressed. -/
def none : Input := ⟨false, false, false⟩

/-- The stored form. -/
def format : Format Input :=
  Format.record
    (.field (.withDefault "confirm" Format.boolean false) <|
      .field (.withDefault "up" Format.boolean false) <|
      .field (.withDefault "down" Format.boolean false) .done)
    (fun (confirm, up, down, ()) => ⟨confirm, up, down⟩)
    fun input => (input.confirm, input.up, input.down, ())

end Input

/-- A step of time. -/
structure Tick where
  /-- What the player presses. -/
  input : Input
  /-- The time passed. -/
  elapsed : Duration
  deriving DecidableEq, Repr

namespace Tick

/-- A press without time passing. -/
def press (input : Input) : Tick := ⟨input, .zero⟩

/-- Time passing without a press. -/
def wait (elapsed : Duration) : Tick := ⟨.none, elapsed⟩

end Tick

end Narrative
