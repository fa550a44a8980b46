import Narrative.Proofs.Dialog.Staging

/-!
# Where a walk arrives

On its way a walk asks for nothing but that the host is told of events. All else that it asks for
belongs to the node where it arrives: a line is brought up and begun, or the options of a choice are
shown; an end and a stall ask for nothing.
-/

namespace Narrative.Dialog

/-- A stop at which a walk arrives while the portrait of some character is shown. -/
inductive Stop.Arrives (manner : Manner) (dialog : DialogGraph) (character : Option Speaker) :
    Stop → Prop where
  /-- It arrives at a line. -/
  | line {node : NodeId} {line : Line} {memory : Memory} (events : List String)
      (known : dialog.graph.kind? node = some (.line line)) :
      Arrives manner dialog character
        ⟨node, (openLine character line).1,
          some (revealLine manner line.text.toList manner.pace.interval line.speaker).1, memory,
          events.map Call.emit ++ ((openLine character line).2 ++
            (revealLine manner line.text.toList manner.pace.interval line.speaker).2)⟩
  /-- It arrives at a choice of the player. -/
  | choice {node : NodeId} {options : List DialogOption} {memory : Memory} (events : List String)
      (known : dialog.graph.kind? node = some (.branch .player options)) (stocked : options ≠ []) :
      Arrives manner dialog character ⟨node, character, some (.choose options.length 0), memory,
        events.map Call.emit ++ [.showOptions (options.map DialogOption.text)]⟩
  /-- It arrives at an end. -/
  | finish {node : NodeId} {memory : Memory} (events : List String)
      (known : dialog.graph.kind? node = some .finish) :
      Arrives manner dialog character ⟨node, character,
        if manner.pace.delay.isZero then none else some (.closing manner.pace.delay), memory,
        events.map Call.emit⟩
  /-- It stalls. -/
  | stall {node : NodeId} {memory : Memory} (events : List String) (reason : Stall) :
      Arrives manner dialog character
        ⟨node, character, some (.stalled reason), memory, events.map Call.emit⟩

/-- Events that are told before do not matter to where a walk arrives. -/
theorem Stop.Arrives.after {manner : Manner} {dialog : DialogGraph} {character : Option Speaker}
    {stop : Stop} (arrives : stop.Arrives manner dialog character) (earlier : List String) :
    (stop.after (earlier.map Call.emit)).Arrives manner dialog character := by
  unfold Stop.after
  cases arrives with
  | line events known =>
    dsimp only
    rw [← List.append_assoc, ← List.map_append]
    exact .line (earlier ++ events) known
  | choice events known stocked =>
    dsimp only
    rw [← List.append_assoc, ← List.map_append]
    exact .choice (earlier ++ events) known stocked
  | finish events known =>
    dsimp only
    rw [← List.map_append]
    exact .finish (earlier ++ events) known
  | stall events reason =>
    dsimp only
    rw [← List.map_append]
    exact .stall (earlier ++ events) reason

/-- Every walk arrives somewhere. -/
theorem walk_arrives (manner : Manner) (dialog : DialogGraph) (bound : Nat) (node : NodeId)
    (character : Option Speaker) (memory : Memory) :
    (walk manner dialog bound node character memory).value.Arrives manner dialog character := by
  induction bound generalizing node memory with
  | zero => exact .stall [] .endless
  | succ bound ih =>
    unfold walk
    cases known : dialog.graph.kind? node with
    | none => exact .stall [] .outside
    | some kind =>
      dsimp only
      rw [Logged.value_bind]
      cases kind with
      | start =>
        dsimp only
        split
        · exact .stall [] .startUnwired
        · next next _ => exact ih next memory
      | line line => exact .line [] known
      | branch decider options =>
        cases decider with
        | player =>
          dsimp only
          split
          · exact .stall [] .nothingToChoose
          · next stocked => exact .choice [] known (mt List.isEmpty_iff.2 stocked)
        | automatic =>
          dsimp only
          rw [Logged.value_bind]
          split
          · exact .stall [] .nothingOpen
          · split
            · exact .stall [] .optionUnwired
            · next next _ =>
              rw [Logged.value_bind, Logged.value_bind]
              rw [calls_applyEffects]
              exact (ih next _).after _
      | event effects =>
        rw [Logged.value_bind, calls_applyEffects]
        split
        · exact .stall _ .eventUnwired
        · next next _ => exact (ih next _).after _
      | finish =>
        have arrives : Stop.Arrives manner dialog character ⟨node, character,
            if manner.pace.delay.isZero then none else some (.closing manner.pace.delay), memory,
            []⟩ := .finish [] known
        dsimp only
        split
        · next instant => rwa [if_pos instant] at arrives
        · next waits => rwa [if_neg waits] at arrives

end Narrative.Dialog
