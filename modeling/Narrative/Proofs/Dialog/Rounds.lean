import Narrative.Proofs.Branch.Choice
import Narrative.Proofs.Dialog.Route
import Narrative.Proofs.Graph.Rounds

/-!
# Rounds of a dialog

A dialog passes its start, its events and the branches that it decides itself. It rests at a line,
at a branch of the player, at an end, and where no way leads on. A walk through it is given up after
as many nodes as the graph has and one more; what is said of walks that come back therefore holds of
the report of such a walk.
-/

namespace Narrative

open Dialog (Manner Memory Stop Wait applyEffect applyEffects walk run)

namespace Effect

/-- The change of a cell that an effect is. -/
def write? : Effect → Option Flags.Write
  | activateFlag flag => some (.activate flag)
  | setValue cell value => some (.set cell value)
  | addValue cell delta => some (.add cell delta)
  | switchState _ => none
  | emit _ => none

/-- The cells that effects change. -/
def cells (effects : List Effect) : List CellRef :=
  effects.filterMap fun effect => effect.write?.map Flags.Write.cell

end Effect

namespace DialogNode

/-- The cells that the way on from a node depends on. -/
def reads : DialogNode → List CellRef
  | branch .automatic options => Branch.cells options
  | _ => []

/-- The cells that are changed where a node is passed. -/
def writes : DialogNode → List CellRef
  | branch .automatic options => options.flatMap fun option => Effect.cells option.effects
  | event effects => Effect.cells effects
  | _ => []

end DialogNode

namespace Dialog

variable {memory other : Memory} {cell : CellRef}

/-- What an effect does to the flags. -/
theorem flags_applyEffect (tracing : Tracing) (memory : Memory) (effect : Effect) :
    (applyEffect tracing memory effect).value.1.flags =
      effect.write?.elim memory.flags fun write => (write.apply memory.flags).value.2 := by
  cases effect <;> rfl

/-- A cell that is the same is the same after effects. -/
theorem sameAt_applyEffects (tracing : Tracing) (effects : List Effect)
    (same : memory.flags.SameAt other.flags cell) :
    (applyEffects tracing memory effects).value.1.flags.SameAt
      (applyEffects tracing other effects).value.1.flags cell := by
  induction effects generalizing memory other with
  | nil => exact same
  | cons effect rest ih =>
    have first : (applyEffect tracing memory effect).value.1.flags.SameAt
        (applyEffect tracing other effect).value.1.flags cell := by
      rw [flags_applyEffect, flags_applyEffect]
      cases effect.write? with
      | none => exact same
      | some write => exact write.sameAt_apply same
    exact ih first

/-- Effects leave every cell alone that they do not change. -/
theorem sameAt_of_spared (tracing : Tracing) (memory : Memory) {effects : List Effect}
    (spared : cell ∉ Effect.cells effects) :
    memory.flags.SameAt (applyEffects tracing memory effects).value.1.flags cell := by
  induction effects generalizing memory with
  | nil => exact .refl _ cell
  | cons effect rest ih =>
    have later : cell ∉ Effect.cells rest := by
      intro member
      apply spared
      unfold Effect.cells at member ⊢
      rw [List.filterMap_cons]
      split
      · exact member
      · exact List.mem_cons_of_mem _ member
    have first : memory.flags.SameAt (applyEffect tracing memory effect).value.1.flags cell := by
      rw [flags_applyEffect]
      cases changes : effect.write? with
      | none => exact .refl _ cell
      | some write =>
        apply write.sameAt_of_ne
        intro same
        apply spared
        simp [Effect.cells, changes, same]
    exact first.trans (ih _ later)

end Dialog

namespace DialogGraph

variable (dialog : DialogGraph)

/-- The port by which a walk passes a node, and the effects of passing it there. -/
def passage? (node : NodeId) (flags : Flags) : Option (String × List Effect) :=
  match dialog.graph.kind? node with
  | some .start => some (Port.exit, [])
  | some (.event effects) => some (Port.exit, effects)
  | some (.branch .automatic options) =>
    (Branch.resolve flags options).value.map fun index =>
      (Port.option index, (options[index]?).elim [] DialogOption.effects)
  | _ => none

/-- Where a walk goes on to. -/
def onward (tracing : Tracing) (here : Station Memory) : Option (Station Memory) :=
  (dialog.passage? here.node here.memory.flags).bind fun (port, effects) =>
    (dialog.graph.connected? here.node port).map fun next =>
      ⟨next, (applyEffects tracing here.memory effects).value.1⟩

/-- A walk rests at a line, at a branch of the player, at an end, and where no way leads on. -/
inductive RestsAt (here : Station Memory) : Prop where
  /-- It stands on a line. -/
  | line {line : Line} (known : dialog.graph.kind? here.node = some (.line line))
  /-- It stands on a branch that the player decides. -/
  | choice {options : List DialogOption}
    (known : dialog.graph.kind? here.node = some (.branch .player options))
  /-- It stands on an end. -/
  | finish (known : dialog.graph.kind? here.node = some .finish)
  /-- It stands outside the graph. -/
  | outside (unknown : dialog.graph.kind? here.node = none)
  /-- It stands on a start that leads nowhere. -/
  | startUnwired (known : dialog.graph.kind? here.node = some .start)
    (unwired : dialog.graph.connected? here.node Port.exit = none)
  /-- It stands on an event that leads nowhere. -/
  | eventUnwired {effects : List Effect}
    (known : dialog.graph.kind? here.node = some (.event effects))
    (unwired : dialog.graph.connected? here.node Port.exit = none)
  /-- It stands on a branch of which no option is open. -/
  | nothingOpen {options : List DialogOption}
    (known : dialog.graph.kind? here.node = some (.branch .automatic options))
    (closed : ∀ option ∈ options, ¬Branch.IsOpen here.memory.flags option)
  /-- It stands on a branch of which the option to take leads nowhere. -/
  | optionUnwired {options : List DialogOption} {index : Nat} {option : DialogOption}
    (known : dialog.graph.kind? here.node = some (.branch .automatic options))
    (wins : Branch.Wins here.memory.flags options index option)
    (unwired : dialog.graph.connected? here.node (Port.option index) = none)

variable {dialog} {tracing : Tracing} {here next : Station Memory}

/-- A walk goes on unless it rests. -/
theorem restsAt_iff : dialog.RestsAt here ↔ dialog.onward tracing here = none := by
  constructor
  · intro rests
    unfold onward passage?
    cases rests with
    | line known => rw [known]; rfl
    | choice known => rw [known]; rfl
    | finish known => rw [known]; rfl
    | outside unknown => rw [unknown]; rfl
    | startUnwired known unwired => simp [known, unwired]
    | eventUnwired known unwired => simp [known, unwired]
    | nothingOpen known closed => simp [known, Branch.resolve_eq_none_iff.2 closed]
    | optionUnwired known wins unwired =>
      simp [known, Branch.resolve_eq_some_iff.2 ⟨_, wins⟩, unwired]
  · intro stays
    unfold onward passage? at stays
    cases known : dialog.graph.kind? here.node with
    | none => exact .outside known
    | some kind =>
      rw [known] at stays
      cases kind with
      | start => exact .startUnwired known (by simpa using stays)
      | line line => exact .line known
      | event effects => exact .eventUnwired known (by simpa using stays)
      | finish => exact .finish known
      | branch decider options =>
        cases decider with
        | player => exact .choice known
        | automatic =>
          cases resolved : (Branch.resolve here.memory.flags options).value with
          | none => exact .nothingOpen known (Branch.resolve_eq_none_iff.1 resolved)
          | some index =>
            rcases Branch.resolve_eq_some_iff.1 resolved with ⟨option, wins⟩
            exact .optionUnwired known wins (by simpa [resolved] using stays)

/-- A node is passed alike under flags that agree on the cells that are read in the graph. -/
theorem passage?_congr {node : NodeId} {flags other : Flags}
    (agree : Flags.AgreeOn (dialog.graph.cells DialogNode.reads) flags other) :
    dialog.passage? node flags = dialog.passage? node other := by
  unfold passage?
  split
  · rfl
  · rfl
  · next options known =>
    have same : (Branch.resolve flags options).value = (Branch.resolve other options).value := by
      apply Branch.resolve_congr
      intro cell member
      exact agree cell (Graph.mem_cells known member)
    rw [same]
  · rfl

/-- Passing a node changes no cell but those that are written in the graph. -/
theorem mem_writes_of_passage? {node : NodeId} {flags : Flags} {port : String}
    {effects : List Effect} (passes : dialog.passage? node flags = some (port, effects))
    {cell : CellRef} (changed : cell ∈ Effect.cells effects) :
    cell ∈ dialog.graph.cells DialogNode.writes := by
  unfold passage? at passes
  split at passes
  · obtain ⟨rfl, rfl⟩ := Prod.mk.inj (Option.some.inj passes)
    cases changed
  · next known =>
    obtain ⟨rfl, rfl⟩ := Prod.mk.inj (Option.some.inj passes)
    exact Graph.mem_cells known changed
  · next options known =>
    rcases Option.map_eq_some_iff.1 passes with ⟨index, resolved, same⟩
    obtain ⟨rfl, rfl⟩ := Prod.mk.inj same
    rcases Branch.resolve_eq_some_iff.1 resolved with ⟨option, wins⟩
    rw [wins.here] at changed
    apply Graph.mem_cells known
    exact List.mem_flatMap.2 ⟨option, List.mem_of_getElem? wins.here, changed⟩
  · cases passes

/-- Where a walk goes on, it passes a node over a connected port. -/
theorem onward_eq_some_iff : dialog.onward tracing here = some next ↔ ∃ port effects,
    dialog.passage? here.node here.memory.flags = some (port, effects) ∧
      dialog.graph.connected? here.node port = some next.node ∧
      next.memory = (applyEffects tracing here.memory effects).value.1 := by
  rcases next with ⟨node, memory⟩
  unfold onward
  cases dialog.passage? here.node here.memory.flags with
  | none => simp
  | some passage =>
    rcases passage with ⟨port, effects⟩
    simp [eq_comm]

/-- The walk through a dialog. -/
def walking (dialog : DialogGraph) (tracing : Tracing) : Walking Memory where
  size := dialog.graph.size
  flags := Memory.flags
  reads := dialog.graph.cells DialogNode.reads
  writes := dialog.graph.cells DialogNode.writes
  onward := dialog.onward tracing
  Rests := dialog.RestsAt
  rests_iff _ := restsAt_iff
  inside here next leads := by
    rcases onward_eq_some_iff.1 leads with ⟨port, effects, -, connected, -⟩
    exact Graph.Leads.source_lt ⟨port, connected⟩
  follows here other next alike leads := by
    rcases onward_eq_some_iff.1 leads with ⟨port, effects, passes, connected, memory⟩
    rw [passage?_congr alike.flags, alike.node] at passes
    rw [alike.node] at connected
    refine ⟨⟨next.node, (applyEffects tracing other.memory effects).value.1⟩,
      onward_eq_some_iff.2 ⟨port, effects, passes, connected, rfl⟩, rfl, ?_⟩
    intro cell read
    rw [memory]
    exact Dialog.sameAt_applyEffects tracing effects (alike.flags cell read)
  spares here next cell leads spared := by
    rcases onward_eq_some_iff.1 leads with ⟨port, effects, passes, -, memory⟩
    rw [memory]
    apply Dialog.sameAt_of_spared
    intro changed
    exact spared (mem_writes_of_passage? passes changed)

end DialogGraph

namespace Dialog

/-- Whether a walk was given up. -/
def Stop.GivenUp (stop : Stop) : Prop := stop.wait = some (.stalled .endless)

section GivenUp

variable {dialog : DialogGraph} {manner : Manner} {bound : Nat} {node : NodeId}
  {character : Option Speaker} {memory : Memory}

/-- A walk that rests is not given up. -/
theorem not_givenUp_of_restsAt (rests : dialog.RestsAt ⟨node, memory⟩) :
    ¬(walk manner dialog (bound + 1) node character memory).value.GivenUp := by
  unfold walk Stop.GivenUp
  cases rests with
  | @line line known =>
    have arrived := (revealLine_waits manner line.text.toList manner.pace.interval line.speaker
      dialog ⟨node, character, some _, memory, []⟩ rfl).2
    intro given
    have waits : (revealLine manner line.text.toList manner.pace.interval line.speaker).1 =
        .stalled .endless := by simpa [known] using given
    rw [waits] at arrived
    cases arrived
  | @choice options known =>
    rw [known]
    by_cases empty : options.isEmpty <;> simp [empty, stall]
  | finish known =>
    rw [known]
    by_cases instant : manner.pace.delay.isZero <;> simp [instant]
  | outside unknown =>
    rw [unknown]
    simp [stall]
  | startUnwired known unwired =>
    dsimp only at known unwired
    simp [known, unwired, stall]
  | eventUnwired known unwired =>
    dsimp only at known unwired
    simp [known, unwired, stall]
  | nothingOpen known closed =>
    have resolved := Branch.resolve_eq_none_iff.2 closed
    dsimp only at known resolved
    simp [known, resolved, stall]
  | optionUnwired known wins unwired =>
    have resolved := Branch.resolve_eq_some_iff.2 ⟨_, wins⟩
    dsimp only at known resolved unwired
    simp [known, resolved, unwired, stall]

/-- A walk that goes on is given up if the walk from there is. -/
theorem givenUp_iff_of_onward {next : Station Memory}
    (leads : dialog.onward manner.tracing ⟨node, memory⟩ = some next) :
    (walk manner dialog (bound + 1) node character memory).value.GivenUp ↔
      (walk manner dialog bound next.node character next.memory).value.GivenUp := by
  rcases DialogGraph.onward_eq_some_iff.1 leads with ⟨port, effects, passes, connected, after⟩
  rw [after]
  unfold DialogGraph.passage? at passes
  dsimp only at passes connected
  unfold Stop.GivenUp
  rw [walk]
  split at passes
  · next known =>
    obtain ⟨rfl, rfl⟩ := Prod.mk.inj (Option.some.inj passes)
    simp [known, connected, applyEffects]
  · next known =>
    obtain ⟨rfl, rfl⟩ := Prod.mk.inj (Option.some.inj passes)
    simp [known, connected, Stop.after]
  · next options known =>
    rcases Option.map_eq_some_iff.1 passes with ⟨index, resolved, same⟩
    obtain ⟨rfl, rfl⟩ := Prod.mk.inj same
    simp [known, resolved, connected, Stop.after]
  · cases passes

/-- A walk is given up exactly if it takes as many steps as it may. -/
theorem walk_givenUp_iff (manner : Manner) (dialog : DialogGraph) (bound : Nat) (node : NodeId)
    (character : Option Speaker) (memory : Memory) :
    (walk manner dialog bound node character memory).value.GivenUp ↔
      ∃ there, (dialog.walking manner.tracing).after bound ⟨node, memory⟩ = some there := by
  refine Walking.givenUp_iff_after (fun bound here =>
    (walk manner dialog bound here.node character here.memory).value.GivenUp) ?_ ?_ ?_ bound
    ⟨node, memory⟩
  · intro here
    rfl
  · intro bound here rests
    exact not_givenUp_of_restsAt rests
  · intro bound here next leads
    exact givenUp_iff_of_onward leads

end GivenUp

end Dialog

end Narrative
