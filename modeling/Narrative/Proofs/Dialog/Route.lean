import Narrative.Proofs.Dialog.Staging
import Narrative.Proofs.Host.Record

/-!
# The route of a dialog

A dialog goes from node to node along connected ports. Its effects are those of the events that it
comes to and of the options that it leaves by, and its lines are those that it comes to. A walk that
is cut into pieces by waiting, by the pace of the text and by what the player presses is compared
with this route: what it changes and what it shows are the effects and the lines along it.
-/

namespace Narrative

open Dialog (Manner Memory Stop Wait walk applyEffects)

/-- The event of the story that a call tells of. -/
def Call.emitted? : Call → Option String
  | emit event => some event
  | _ => none

/-- Whether a call neither tells of an event of the story nor touches the text of a line. -/
def Call.isAside : Call → Bool
  | emit _ => false
  | clearText => false
  | showText _ => false
  | _ => true

/-- A node that was left, and how. -/
structure Leg where
  /-- The node. -/
  node : NodeId
  /-- The option that it was left by; none for the only way out. -/
  option : Option Nat
  deriving DecidableEq

/-- The port that a node was left by. -/
def Leg.port (leg : Leg) : String := leg.option.elim Port.exit Port.option

namespace DialogNode

/-- The effects of coming to a node. -/
def effects : DialogNode → List Effect
  | .event effects => effects
  | _ => []

/-- The effects of leaving a node by an option. -/
def optionEffects (index : Nat) : DialogNode → List Effect
  | .branch _ options => (options[index]?).elim [] DialogOption.effects
  | _ => []

/-- The text of a line. -/
def texts : DialogNode → List String
  | .line spoken => [spoken.text]
  | _ => []

end DialogNode

namespace DialogGraph

variable (dialog : DialogGraph)

/-- The effects of coming to a node. -/
def effectsAt (node : NodeId) : List Effect := (dialog.graph.kind? node).elim [] DialogNode.effects

/-- The effects of leaving a node. -/
def leavingEffects (leg : Leg) : List Effect :=
  leg.option.elim [] fun index =>
    (dialog.graph.kind? leg.node).elim [] (DialogNode.optionEffects index)

/-- The effects of coming to a node and leaving it. -/
def legEffects (leg : Leg) : List Effect := dialog.effectsAt leg.node ++ dialog.leavingEffects leg

/-- Where a leg leads. -/
def beyond (leg : Leg) : NodeId := (dialog.graph.connected? leg.node leg.port).getD leg.node

/-- Where the legs from a node lead. -/
def goal (node : NodeId) : List Leg → NodeId
  | [] => node
  | leg :: rest => goal (dialog.beyond leg) rest

/-- The text of the line at a node, if there is one. -/
def textsAt (node : NodeId) : List String := (dialog.graph.kind? node).elim [] DialogNode.texts

/-- Whether a node can be left in some way. A branch is left by one of its options, and one that the
player does not decide by the option that it resolves to. -/
def Opens (flags : Flags) (leg : Leg) : Prop :=
  match dialog.graph.kind? leg.node, leg.option with
  | some .start, none => True
  | some (.line _), none => True
  | some (.event _), none => True
  | some (.branch .player options), some index => index < options.length
  | some (.branch .automatic options), some index =>
    (Branch.resolve flags options).value = some index
  | _, _ => False

/-- A path through a dialog: each node is left in a way that it can be left, over a port that is
connected to the next one. What the story remembers follows the effects. -/
inductive Path (tracing : Tracing) : NodeId → Memory → List Leg → NodeId → Prop where
  /-- The path that leaves no node. -/
  | nil (node : NodeId) (memory : Memory) : Path tracing node memory [] node
  /-- The path that leaves one more node before all others. -/
  | cons {leg : Leg} {memory : Memory} {next last : NodeId} {legs : List Leg}
      (opens : dialog.Opens memory.flags leg)
      (connected : dialog.graph.connected? leg.node leg.port = some next)
      (rest : Path tracing next (applyEffects tracing memory (dialog.legEffects leg)).value.1 legs
        last) :
      Path tracing leg.node memory (leg :: legs) last

variable {dialog} {node : NodeId}

/-- Coming to a node of some kind. -/
theorem effectsAt_of_kind {kind : DialogNode} (known : dialog.graph.kind? node = some kind) :
    dialog.effectsAt node = kind.effects :=
  congrArg (Option.elim · [] DialogNode.effects) known

/-- Leaving a node by its only way out adds nothing. -/
theorem legEffects_exit (node : NodeId) : dialog.legEffects ⟨node, none⟩ = dialog.effectsAt node :=
  List.append_nil _

/-- A line can be left. -/
theorem opens_line {line : Line} (known : dialog.graph.kind? node = some (.line line))
    (flags : Flags) : dialog.Opens flags ⟨node, none⟩ := by
  unfold Opens
  rw [known]
  trivial

/-- A branch of the player can be left by each of its options. -/
theorem opens_choice {options : List DialogOption}
    (known : dialog.graph.kind? node = some (.branch .player options)) {index : Nat}
    (within : index < options.length) (flags : Flags) :
    dialog.Opens flags ⟨node, some index⟩ := by
  unfold Opens
  rw [known]
  exact within

/-- Coming to a branch and leaving it by an option has the effects of the option. -/
theorem legEffects_option {decider : Decider} {options : List DialogOption}
    (known : dialog.graph.kind? node = some (.branch decider options)) (index : Nat) :
    dialog.legEffects ⟨node, some index⟩ = (options[index]?).elim [] DialogOption.effects := by
  unfold legEffects leavingEffects
  rw [effectsAt_of_kind known]
  dsimp only [Option.elim]
  rw [known]
  rfl

end DialogGraph

/-- Whether a dialog that waits has come to the node where it stands. A walk that is given up has
not. -/
def Dialog.Wait.arrived : Wait → Bool
  | .stalled .endless => false
  | _ => true

/-- The characters of a line that are still to come. -/
def Dialog.Wait.hidden : Wait → List Char
  | .reveal remaining .. => remaining
  | _ => []

/-- How a dialog has gone: the nodes that it has left, and the one where it stands. It has come to
that node, unless the walk was given up before. -/
structure Itinerary where
  /-- The nodes that it has left, in order. -/
  legs : List Leg
  /-- The node where it stands. -/
  node : NodeId
  /-- Whether it has come to that node. -/
  arrived : Bool

namespace Itinerary

/-- All effects on the way. -/
def effects (itinerary : Itinerary) (dialog : DialogGraph) : List Effect :=
  itinerary.legs.flatMap dialog.legEffects ++
    if itinerary.arrived then dialog.effectsAt itinerary.node else []

/-- The texts of all lines on the way. -/
def texts (itinerary : Itinerary) (dialog : DialogGraph) : List String :=
  (itinerary.legs.flatMap fun leg => dialog.textsAt leg.node) ++
    if itinerary.arrived then dialog.textsAt itinerary.node else []

/-- The way to a node where a dialog waits, or is over. It has come to the node, unless the walk was
given up before. -/
def ofWait (legs : List Leg) (node : NodeId) (wait : Option Wait) : Itinerary :=
  ⟨legs, node, wait.elim true Wait.arrived⟩

/-- The way of a walk from a node. A walk that has left more nodes than there are was given up
before it came to another one. -/
def ofWalk (dialog : DialogGraph) (node : NodeId) (legs : List Leg) : Itinerary :=
  ⟨legs, dialog.goal node legs, decide (legs.length ≤ dialog.graph.size)⟩

/-- The way that begins with some legs. -/
def behind (legs : List Leg) (itinerary : Itinerary) : Itinerary :=
  { itinerary with legs := legs ++ itinerary.legs }

variable (legs : List Leg) (itinerary : Itinerary) (dialog : DialogGraph)

/-- The effects of more legs come first. -/
theorem effects_behind : (itinerary.behind legs).effects dialog =
    legs.flatMap dialog.legEffects ++ itinerary.effects dialog := by
  unfold behind effects
  rw [List.flatMap_append, List.append_assoc]

/-- The effects of one more leg come first. -/
theorem effects_cons (leg : Leg) (node : NodeId) (wait : Option Wait) :
    (ofWait (leg :: legs) node wait).effects dialog =
      dialog.legEffects leg ++ (ofWait legs node wait).effects dialog := by
  refine (effects_behind [leg] (ofWait legs node wait) dialog).trans ?_
  rw [List.flatMap_singleton]

/-- The texts of more legs come first. -/
theorem texts_behind : (itinerary.behind legs).texts dialog =
    (legs.flatMap fun leg => dialog.textsAt leg.node) ++ itinerary.texts dialog := by
  unfold behind texts
  rw [List.flatMap_append, List.append_assoc]

/-- The texts of one more leg come first. -/
theorem texts_cons (leg : Leg) (node : NodeId) (wait : Option Wait) :
    (ofWait (leg :: legs) node wait).texts dialog =
      dialog.textsAt leg.node ++ (ofWait legs node wait).texts dialog := by
  refine (texts_behind [leg] (ofWait legs node wait) dialog).trans ?_
  rw [List.flatMap_singleton]

end Itinerary

/-- Paths in a row. -/
theorem DialogGraph.Path.append {dialog : DialogGraph} {tracing : Tracing} {root middle : NodeId}
    {memory : Memory} {legs : List Leg} (first : dialog.Path tracing root memory legs middle)
    {others : List Leg} {last : NodeId}
    (second : dialog.Path tracing middle
      (applyEffects tracing memory (legs.flatMap dialog.legEffects)).value.1 others last) :
    dialog.Path tracing root memory (legs ++ others) last := by
  induction first with
  | nil => exact second
  | cons opens connected _ ih =>
    refine .cons opens connected (ih ?_)
    rw [← Dialog.memory_applyEffects_append]
    exact second

/-- A path ends where its legs lead. -/
theorem DialogGraph.Path.goal_eq {dialog : DialogGraph} {tracing : Tracing} {root last : NodeId}
    {memory : Memory} {legs : List Leg} (path : dialog.Path tracing root memory legs last) :
    dialog.goal root legs = last := by
  induction path with
  | nil => rfl
  | @cons leg memory next last legs opens connected rest ih =>
    have leads : dialog.beyond leg = next := congrArg (Option.getD · leg.node) connected
    rw [goal, leads]
    exact ih

namespace Dialog

/-- The nodes that a walk leaves. -/
def walkLegs (manner : Manner) (dialog : DialogGraph) (bound : Nat) (node : NodeId)
    (memory : Memory) : List Leg :=
  match bound with
  | 0 => []
  | bound + 1 =>
    match dialog.graph.kind? node with
    | some .start =>
      match dialog.graph.connected? node Port.exit with
      | none => []
      | some next => ⟨node, none⟩ :: walkLegs manner dialog bound next memory
    | some (.branch .automatic options) =>
      match (Branch.resolve memory.flags options).value with
      | none => []
      | some index =>
        match dialog.graph.connected? node (Port.option index) with
        | none => []
        | some next =>
          let effects := (options[index]?).elim [] DialogOption.effects
          ⟨node, some index⟩ :: walkLegs manner dialog bound next
            (applyEffects manner.tracing memory effects).value.1
    | some (.event effects) =>
      match dialog.graph.connected? node Port.exit with
      | none => []
      | some next =>
        ⟨node, none⟩ ::
          walkLegs manner dialog bound next (applyEffects manner.tracing memory effects).value.1
    | _ => []

/-- Effects tell the host of their events and show nothing of a line. -/
theorem hearAll_emits (transcript : Transcript) (events : List String) :
    transcript.hearAll (events.map Call.emit) = transcript := by
  induction events with
  | nil => rfl
  | cons event rest ih => exact ih

/-- The events of calls that tell of events. -/
theorem emitted_emits (events : List String) :
    (events.map Call.emit).filterMap Call.emitted? = events := by
  rw [List.filterMap_map]
  exact List.filterMap_some

/-- Asides tell of no event. -/
theorem emitted_asides {calls : List Call} (asides : calls.all Call.isAside = true) :
    calls.filterMap Call.emitted? = [] := by
  refine List.filterMap_eq_nil_iff.2 fun call found => ?_
  have aside := List.all_eq_true.1 asides call found
  cases call with
  | emit event => cases aside
  | _ => rfl

/-- Asides leave the lines alone. -/
theorem hearAll_asides {calls : List Call} (asides : calls.all Call.isAside = true)
    (transcript : Transcript) : transcript.hearAll calls = transcript := by
  induction calls with
  | nil => rfl
  | cons call rest ih =>
    obtain ⟨aside, asides⟩ := Bool.and_eq_true_iff.1 asides
    cases call with
    | emit event => cases aside
    | clearText => cases aside
    | showText character => cases aside
    | _ => exact ih asides

/-- A stop for which the graph gives the reason: a dialog that is over stands on an end, and one
that lacks the way out of an automatic branch stands on that branch. -/
def Stop.Warranted (dialog : DialogGraph) (stop : Stop) : Prop :=
  match stop.wait with
  | none => dialog.graph.kind? stop.node = some .finish
  | some (.stalled .optionUnwired) =>
    ∃ options index, dialog.graph.kind? stop.node = some (.branch .automatic options) ∧
      (Branch.resolve stop.memory.flags options).value = some index ∧
      dialog.graph.connected? stop.node (Port.option index) = none
  | _ => True

/-- A stop of a walk that went from a node by some legs: they are a path, and what was changed and
shown on the way are the effects and the lines along it. -/
structure Stop.Recounts (tracing : Tracing) (dialog : DialogGraph) (root : NodeId)
    (memory : Memory) (legs : List Leg) (stop : Stop) : Prop where
  /-- The graph gives the reason for the stop. -/
  warrant : stop.Warranted dialog
  /-- The legs are a path to where the walk stopped. -/
  path : dialog.Path tracing root memory legs stop.node
  /-- What the story remembers. -/
  memory : stop.memory = (applyEffects tracing memory
    ((Itinerary.ofWait legs stop.node stop.wait).effects dialog)).value.1
  /-- What the host was told of. -/
  emitted : stop.calls.filterMap Call.emitted? =
    ((Itinerary.ofWait legs stop.node stop.wait).effects dialog).filterMap Effect.emitted?
  /-- What was shown after lines that were shown before. -/
  spells : ∀ transcript : Transcript,
    (transcript.hearAll stop.calls).Spells (stop.wait.elim [] Wait.hidden)
      (transcript.lines ++ (Itinerary.ofWait legs stop.node stop.wait).texts dialog)

namespace Stop.Recounts

variable {tracing : Tracing} {dialog : DialogGraph} {root : NodeId} {memory : Memory}
  {legs : List Leg} {stop : Stop}

/-- A stop at the node where the walk began. -/
theorem here {node : NodeId} {character : Option Speaker} {wait : Option Wait} {after : Memory}
    {calls : List Call} {effects : List Effect} {texts : List String}
    (warrant : Stop.Warranted dialog ⟨node, character, wait, after, calls⟩)
    (effected : (Itinerary.ofWait [] node wait).effects dialog = effects)
    (spoken : (Itinerary.ofWait [] node wait).texts dialog = texts)
    (remembers : (applyEffects tracing memory effects).value.1 = after)
    (tells : calls.filterMap Call.emitted? = effects.filterMap Effect.emitted?)
    (spells : ∀ transcript : Transcript, (transcript.hearAll calls).Spells
      (wait.elim [] Wait.hidden) (transcript.lines ++ texts)) :
    Stop.Recounts tracing dialog node memory [] ⟨node, character, wait, after, calls⟩ := by
  subst effected spoken
  exact ⟨warrant, .nil node memory, remembers.symm, tells, spells⟩

/-- A stop at the node where the walk began, without lines and effects. -/
theorem still {node : NodeId} {character : Option Speaker} {wait : Option Wait} {calls : List Call}
    (warrant : Stop.Warranted dialog ⟨node, character, wait, memory, calls⟩)
    (effectless : (Itinerary.ofWait [] node wait).effects dialog = [])
    (lineless : (Itinerary.ofWait [] node wait).texts dialog = [])
    (hidden : wait.elim [] Wait.hidden = []) (asides : calls.all Call.isAside = true) :
    Stop.Recounts tracing dialog node memory [] ⟨node, character, wait, memory, calls⟩ := by
  refine here warrant effectless lineless rfl (emitted_asides asides) fun transcript => ?_
  rw [hearAll_asides asides, hidden, List.append_nil]
  exact transcript.spells_lines

/-- A walk that left one more node before, which shows no line. -/
theorem step (leg : Leg) (effects : List Effect) {next : NodeId}
    (opens : dialog.Opens memory.flags leg)
    (connected : dialog.graph.connected? leg.node leg.port = some next)
    (lineless : dialog.textsAt leg.node = []) (along : dialog.legEffects leg = effects)
    (rest : stop.Recounts tracing dialog next (applyEffects tracing memory effects).value.1 legs) :
    (stop.after (applyEffects tracing memory effects).value.2).Recounts tracing dialog leg.node
      memory (leg :: legs) := by
  subst along
  have effects := Itinerary.effects_cons legs dialog leg stop.node stop.wait
  have texts := Itinerary.texts_cons legs dialog leg stop.node stop.wait
  rw [lineless, List.nil_append] at texts
  have calls := calls_applyEffects tracing memory (dialog.legEffects leg)
  refine ⟨rest.warrant, .cons opens connected rest.path, ?_, ?_, fun transcript => ?_⟩
  · change stop.memory = (applyEffects tracing memory
      ((Itinerary.ofWait _ stop.node stop.wait).effects dialog)).value.1
    rw [effects, memory_applyEffects_append]
    exact rest.memory
  · change (_ ++ stop.calls).filterMap Call.emitted? =
      ((Itinerary.ofWait _ stop.node stop.wait).effects dialog).filterMap Effect.emitted?
    rw [effects, List.filterMap_append, List.filterMap_append, calls, emitted_emits, rest.emitted]
  · change (transcript.hearAll (_ ++ stop.calls)).Spells _
      (_ ++ (Itinerary.ofWait _ stop.node stop.wait).texts dialog)
    rw [texts, Transcript.hearAll_append, calls, hearAll_emits]
    exact rest.spells transcript

/-- A walk before which there were asides. -/
theorem prelude (recounts : stop.Recounts tracing dialog root memory legs) {asked : List Call}
    (asides : asked.all Call.isAside = true) :
    (stop.after asked).Recounts tracing dialog root memory legs := by
  refine ⟨recounts.warrant, recounts.path, recounts.memory, ?_, fun transcript => ?_⟩
  · refine Eq.trans ?_ recounts.emitted
    change (asked ++ stop.calls).filterMap Call.emitted? = _
    rw [List.filterMap_append, emitted_asides asides, List.nil_append]
  · change (transcript.hearAll (asked ++ stop.calls)).Spells _ _
    rw [Transcript.hearAll_append, hearAll_asides asides]
    exact recounts.spells transcript

/-- A dialog that goes on at the node where it stands, without coming to another one. -/
theorem dwell {first : Stop} (before : first.Recounts tracing dialog root memory legs)
    (character : Option Speaker) {wait : Option Wait} {calls : List Call}
    (warrant : Stop.Warranted dialog ⟨first.node, character, wait, first.memory,
      first.calls ++ calls⟩)
    (arrived : wait.elim true Wait.arrived = first.wait.elim true Wait.arrived)
    (silent : calls.filterMap Call.emitted? = [])
    (heard : ∀ (transcript : Transcript) (texts : List String),
      transcript.Spells (first.wait.elim [] Wait.hidden) texts →
        (transcript.hearAll calls).Spells (wait.elim [] Wait.hidden) texts) :
    Stop.Recounts tracing dialog root memory legs
      ⟨first.node, character, wait, first.memory, first.calls ++ calls⟩ := by
  have same : Itinerary.ofWait legs first.node wait =
      Itinerary.ofWait legs first.node first.wait := by
    unfold Itinerary.ofWait
    rw [arrived]
  refine ⟨warrant, before.path, ?_, ?_, fun transcript => ?_⟩
  · dsimp only
    rw [same]
    exact before.memory
  · dsimp only
    rw [same, List.filterMap_append, silent, List.append_nil]
    exact before.emitted
  · dsimp only
    rw [same, Transcript.hearAll_append]
    exact heard _ _ (before.spells transcript)

/-- A dialog that is over after it has come to its end. -/
theorem finish {first : Stop} (before : first.Recounts tracing dialog root memory legs)
    (ended : dialog.graph.kind? first.node = some .finish)
    (arrived : first.wait.elim true Wait.arrived = true)
    (hidden : first.wait.elim [] Wait.hidden = []) {calls : List Call}
    (asides : calls.all Call.isAside = true) :
    Stop.Recounts tracing dialog root memory legs
      ⟨first.node, none, none, first.memory, first.calls ++ calls⟩ := by
  refine before.dwell none ended arrived.symm (emitted_asides asides)
    fun transcript texts spells => ?_
  rw [hearAll_asides asides]
  rw [hidden] at spells
  exact spells

/-- A dialog that goes on over a port of the node where the player let it wait. -/
theorem onward {first : Stop} (before : first.Recounts tracing dialog root memory legs)
    (arrived : first.wait.elim true Wait.arrived = true)
    (hidden : first.wait.elim [] Wait.hidden = []) (leg : Leg) (leaves : leg.node = first.node)
    {effects : List Effect} (along : dialog.legEffects leg = effects)
    (effectless : dialog.effectsAt first.node = []) {next : NodeId}
    (opens : dialog.Opens first.memory.flags leg)
    (connected : dialog.graph.connected? leg.node leg.port = some next) {asked : List Call}
    (asides : asked.all Call.isAside = true) {others : List Leg}
    (rest : stop.Recounts tracing dialog next (applyEffects tracing first.memory effects).value.1
      others) :
    (stop.after (first.calls ++ (asked ++
      (applyEffects tracing first.memory effects).value.2))).Recounts tracing dialog root memory
        (legs ++ leg :: others) := by
  subst along
  have before_effects : (Itinerary.ofWait legs first.node first.wait).effects dialog =
      legs.flatMap dialog.legEffects := by
    unfold Itinerary.effects Itinerary.ofWait
    rw [arrived, if_pos rfl, effectless, List.append_nil]
  have before_texts : (Itinerary.ofWait legs first.node first.wait).texts dialog =
      (legs.flatMap fun leg => dialog.textsAt leg.node) ++ dialog.textsAt leg.node := by
    unfold Itinerary.texts Itinerary.ofWait
    rw [arrived, if_pos rfl, leaves]
  have effects : (Itinerary.ofWait (legs ++ leg :: others) stop.node stop.wait).effects dialog =
      legs.flatMap dialog.legEffects ++ (dialog.legEffects leg ++
        (Itinerary.ofWait others stop.node stop.wait).effects dialog) := by
    refine (Itinerary.effects_behind legs (.ofWait (leg :: others) stop.node stop.wait)
      dialog).trans (congrArg _ ?_)
    exact Itinerary.effects_cons others dialog leg stop.node stop.wait
  have texts : (Itinerary.ofWait (legs ++ leg :: others) stop.node stop.wait).texts dialog =
      (legs.flatMap fun leg => dialog.textsAt leg.node) ++ (dialog.textsAt leg.node ++
        (Itinerary.ofWait others stop.node stop.wait).texts dialog) := by
    refine (Itinerary.texts_behind legs (.ofWait (leg :: others) stop.node stop.wait) dialog).trans
      (congrArg _ ?_)
    exact Itinerary.texts_cons others dialog leg stop.node stop.wait
  have remembered := before.memory
  rw [before_effects] at remembered
  have calls := calls_applyEffects tracing first.memory (dialog.legEffects leg)
  refine ⟨rest.warrant, before.path.append ?_, ?_, ?_, fun transcript => ?_⟩
  · rw [← remembered, ← leaves]
    exact .cons opens connected rest.path
  · change stop.memory = (applyEffects tracing memory
      ((Itinerary.ofWait _ stop.node stop.wait).effects dialog)).value.1
    rw [effects, memory_applyEffects_append, ← remembered, memory_applyEffects_append]
    exact rest.memory
  · change ((first.calls ++ (asked ++ _)) ++ stop.calls).filterMap Call.emitted? =
      ((Itinerary.ofWait _ stop.node stop.wait).effects dialog).filterMap Effect.emitted?
    have told := before.emitted
    rw [before_effects] at told
    simp only [List.filterMap_append, effects, calls, emitted_emits, emitted_asides asides, told,
      rest.emitted, List.nil_append, List.append_assoc]
  · change (transcript.hearAll ((first.calls ++ (asked ++ _)) ++ stop.calls)).Spells _
      (_ ++ (Itinerary.ofWait _ stop.node stop.wait).texts dialog)
    have shown := (before.spells transcript).whole
    rw [hidden, before_texts] at shown
    have spells := rest.spells (transcript.hearAll first.calls)
    rw [Transcript.lines, shown] at spells
    rw [List.append_assoc, List.append_assoc] at spells
    rw [texts, Transcript.hearAll_append, Transcript.hearAll_append, Transcript.hearAll_append,
      hearAll_asides asides, calls, hearAll_emits]
    exact spells

end Stop.Recounts

/-- Staging tells of no event. -/
theorem emitted_staging {calls : List Call} (staging : calls.all Call.isStaging = true) :
    calls.filterMap Call.emitted? = [] := by
  refine List.filterMap_eq_nil_iff.2 fun call found => ?_
  have staged := List.all_eq_true.1 staging call found
  cases call with
  | emit event => cases staged
  | _ => rfl

/-- A portrait is an aside. -/
theorem aside_of_portrait (call : Call) (portrait : call.isPortrait = true) :
    call.isAside = true := by
  cases call with
  | showSpeaker _ => rfl
  | hideSpeaker _ => rfl
  | setTalking _ _ => rfl
  | _ => cases portrait

/-- Bringing up a line closes the line before and opens one of which nothing is shown. -/
theorem hearAll_openLine (character : Option Speaker) (line : Line) (transcript : Transcript) :
    transcript.hearAll (openLine character line).2 = ⟨transcript.lines, some []⟩ := by
  have portrait := hearAll_asides
    (Call.all_of_kind aside_of_portrait (present_portrait character line.speaker)) transcript
  unfold openLine
  dsimp only
  rw [Transcript.hearAll_append, Transcript.hearAll_append]
  cases line.illustration <;>
    exact congrArg (Transcript.hearAll · [.clearText, .setSpeakerName line.speaker]) portrait

/-- Revealing a line shows the characters that were to come, but for those that still are. -/
theorem revealLine_spells (manner : Manner) {remaining : List Char} (budget : Duration)
    (speaker : Speaker) {transcript : Transcript} {texts : List String}
    (spells : transcript.Spells remaining texts) :
    (transcript.hearAll (revealLine manner remaining budget speaker).2).Spells
      (revealLine manner remaining budget speaker).1.hidden texts := by
  have shows (characters : List Char) {rest : List Char} {transcript : Transcript}
      (spells : transcript.Spells (characters ++ rest) texts) :
      (transcript.hearAll (characters.flatMap fun character =>
        [Call.showText character, .playSound manner.sounds.speak])).Spells rest texts := by
    induction characters generalizing transcript with
    | nil => exact spells
    | cons first others ih => exact ih spells.hear
  rw [← reveal_append manner.pace.interval remaining budget] at spells
  have shown := shows _ spells
  unfold revealLine
  dsimp only
  split
  · next finished =>
    rw [List.isEmpty_iff.1 finished] at shown
    rw [Transcript.hearAll_append]
    split
    · exact shown
    · exact shown
  · exact shown

/-- A line that goes on being revealed is whole, or characters of it are still to come. -/
theorem revealLine_cases (manner : Manner) (remaining : List Char) (budget : Duration)
    (speaker : Speaker) : (revealLine manner remaining budget speaker).1 = .confirm ∨
      ∃ hidden left,
        (revealLine manner remaining budget speaker).1 = .reveal hidden left speaker := by
  unfold revealLine
  dsimp only
  split
  · exact .inl rfl
  · exact .inr ⟨_, _, rfl⟩

/-- While a line is revealed the dialog has come to it. -/
theorem revealLine_waits (manner : Manner) (remaining : List Char) (budget : Duration)
    (speaker : Speaker) (dialog : DialogGraph) (stop : Stop)
    (waits : stop.wait = some (revealLine manner remaining budget speaker).1) :
    stop.Warranted dialog ∧ (revealLine manner remaining budget speaker).1.arrived = true := by
  unfold Stop.Warranted
  rw [waits]
  obtain same | ⟨hidden, left, same⟩ := revealLine_cases manner remaining budget speaker
  · rw [same]
    exact ⟨trivial, rfl⟩
  · rw [same]
    exact ⟨trivial, rfl⟩

/-- A stop at a line that is being revealed. -/
theorem line_recounts (manner : Manner) {dialog : DialogGraph} {node : NodeId} {line : Line}
    (known : dialog.graph.kind? node = some (.line line)) (character : Option Speaker)
    (memory : Memory) :
    Stop.Recounts manner.tracing dialog node memory []
      ⟨node, (openLine character line).1,
        some (revealLine manner line.text.toList manner.pace.interval line.speaker).1, memory,
        (openLine character line).2 ++
          (revealLine manner line.text.toList manner.pace.interval line.speaker).2⟩ := by
  obtain ⟨warrant, arrived⟩ := revealLine_waits manner line.text.toList manner.pace.interval
    line.speaker dialog ⟨node, (openLine character line).1, _, memory,
      (openLine character line).2 ++ (revealLine manner _ _ line.speaker).2⟩ rfl
  have effectless : dialog.effectsAt node = [] := DialogGraph.effectsAt_of_kind known
  have spoken : dialog.textsAt node = [line.text] :=
    congrArg (Option.elim · [] DialogNode.texts) known
  refine .here warrant ((if_pos arrived).trans effectless) ((if_pos arrived).trans spoken) rfl ?_
    fun transcript => ?_
  · rw [List.filterMap_append, emitted_staging (openLine_staging ..),
      emitted_staging (revealLine_staging ..)]
    rfl
  · rw [Transcript.hearAll_append, hearAll_openLine]
    refine revealLine_spells manner _ _ ⟨?_, fun _ => Option.some_ne_none _⟩
    change transcript.lines ++ [String.ofList line.text.toList] = _
    rw [String.ofList_toList]

/-- A walk recounts the legs that it takes. -/
theorem walk_recounts (manner : Manner) (dialog : DialogGraph) (bound : Nat) (node : NodeId)
    (character : Option Speaker) (memory : Memory) :
    (walk manner dialog bound node character memory).value.Recounts manner.tracing dialog node
      memory (walkLegs manner dialog bound node memory) := by
  induction bound generalizing node character memory with
  | zero => exact .still trivial rfl rfl rfl rfl
  | succ bound ih =>
    have effectsHere : dialog.effectsAt node =
        (dialog.graph.kind? node).elim [] DialogNode.effects := rfl
    have textsHere : dialog.textsAt node =
        (dialog.graph.kind? node).elim [] DialogNode.texts := rfl
    unfold walk walkLegs
    cases known : dialog.graph.kind? node with
    | none =>
      rw [known] at effectsHere textsHere
      exact .still trivial effectsHere textsHere rfl rfl
    | some kind =>
      rw [known] at effectsHere textsHere
      dsimp only
      rw [Logged.value_bind]
      cases kind with
      | start =>
        dsimp only
        cases connected : dialog.graph.connected? node Port.exit with
        | none => exact .still trivial effectsHere textsHere rfl rfl
        | some next =>
          refine .step ⟨node, none⟩ [] ?_ connected textsHere ?_ (ih next character memory)
          · unfold DialogGraph.Opens
            rw [known]
            trivial
          · rw [DialogGraph.legEffects_exit, effectsHere]
            rfl
      | line line => exact line_recounts manner known character memory
      | branch mode options =>
        cases mode with
        | player =>
          dsimp only
          split
          · exact .still trivial effectsHere textsHere rfl rfl
          · exact .still trivial effectsHere textsHere rfl rfl
        | automatic =>
          dsimp only
          rw [Logged.value_bind]
          cases resolved : (Branch.resolve memory.flags options).value with
          | none => exact .still trivial effectsHere textsHere rfl rfl
          | some index =>
            dsimp only
            cases connected : dialog.graph.connected? node (Port.option index) with
            | none =>
              exact .still ⟨options, index, known, resolved, connected⟩ effectsHere textsHere rfl
                rfl
            | some next =>
              refine .step ⟨node, some index⟩ _ ?_ connected textsHere ?_ (ih next character _)
              · unfold DialogGraph.Opens
                rw [known]
                exact resolved
              · exact DialogGraph.legEffects_option known index
      | event effects =>
        dsimp only
        rw [Logged.value_bind]
        cases connected : dialog.graph.connected? node Port.exit with
        | none =>
          have calls := calls_applyEffects manner.tracing memory effects
          refine .here trivial effectsHere textsHere rfl ?_ fun transcript => ?_
          · rw [calls, emitted_emits]
            rfl
          · rw [calls, hearAll_emits]
            exact (List.append_nil transcript.lines).symm ▸ transcript.spells_lines
        | some next =>
          refine .step ⟨node, none⟩ effects ?_ connected textsHere ?_ (ih next character _)
          · unfold DialogGraph.Opens
            rw [known]
            trivial
          · rw [DialogGraph.legEffects_exit, effectsHere]
            rfl
      | finish =>
        dsimp only
        split
        · exact .still known effectsHere textsHere rfl rfl
        · exact .still trivial effectsHere textsHere rfl rfl

/-- A walk comes to the node where it stops unless it has left as many nodes as it may. -/
theorem arrived_walk (manner : Manner) (dialog : DialogGraph) (bound : Nat) (node : NodeId)
    (character : Option Speaker) (memory : Memory) :
    (walk manner dialog bound node character memory).value.wait.elim true Wait.arrived = true ↔
      (walkLegs manner dialog bound node memory).length < bound := by
  induction bound generalizing node character memory with
  | zero => exact iff_of_false nofun (Nat.lt_irrefl 0)
  | succ bound ih =>
    have room : ([] : List Leg).length < bound + 1 := Nat.succ_pos bound
    have onward (leg : Leg) (next : NodeId) (after : Memory) :
        (walk manner dialog bound next character after).value.wait.elim true Wait.arrived = true ↔
          (leg :: walkLegs manner dialog bound next after).length < bound + 1 :=
      (ih next character after).trans Nat.succ_lt_succ_iff.symm
    unfold walk walkLegs
    cases dialog.graph.kind? node with
    | none => exact iff_of_true rfl room
    | some kind =>
      dsimp only
      rw [Logged.value_bind]
      cases kind with
      | start =>
        dsimp only
        cases dialog.graph.connected? node Port.exit with
        | none => exact iff_of_true rfl room
        | some next => exact onward ⟨node, none⟩ next memory
      | line line =>
        have arrived := (revealLine_waits manner line.text.toList manner.pace.interval line.speaker
          dialog ⟨node, character, some _, memory, []⟩ rfl).2
        exact iff_of_true arrived room
      | branch mode options =>
        cases mode with
        | player =>
          dsimp only
          split
          · exact iff_of_true rfl room
          · exact iff_of_true rfl room
        | automatic =>
          dsimp only
          rw [Logged.value_bind]
          cases (Branch.resolve memory.flags options).value with
          | none => exact iff_of_true rfl room
          | some index =>
            dsimp only
            cases dialog.graph.connected? node (Port.option index) with
            | none => exact iff_of_true rfl room
            | some next => exact onward ⟨node, some index⟩ next _
      | event effects =>
        dsimp only
        rw [Logged.value_bind]
        cases dialog.graph.connected? node Port.exit with
        | none => exact iff_of_true rfl room
        | some next => exact onward ⟨node, none⟩ next _
      | finish =>
        dsimp only
        split
        · exact iff_of_true rfl room
        · exact iff_of_true rfl room

/-- A walk changes what the effects on its way change. -/
theorem memory_run (manner : Manner) (dialog : DialogGraph) (node : NodeId)
    (character : Option Speaker) (memory : Memory) :
    (run manner dialog node character memory).value.memory =
      (applyEffects manner.tracing memory ((Itinerary.ofWalk dialog node
        (walkLegs manner dialog (dialog.graph.size + 1) node memory)).effects dialog)).value.1 := by
  let bound := dialog.graph.size + 1
  let legs := walkLegs manner dialog bound node memory
  let stop := (walk manner dialog bound node character memory).value
  have recounts : stop.Recounts manner.tracing dialog node memory legs := walk_recounts ..
  have came : stop.wait.elim true Wait.arrived = true ↔ legs.length < bound := arrived_walk ..
  have within : decide (legs.length ≤ dialog.graph.size) = stop.wait.elim true Wait.arrived :=
    Bool.eq_iff_iff.2 (decide_eq_true_iff.trans (Nat.lt_succ_iff.symm.trans came.symm))
  have way : Itinerary.ofWalk dialog node legs = .ofWait legs stop.node stop.wait := by
    unfold Itinerary.ofWalk Itinerary.ofWait
    rw [recounts.path.goal_eq, within]
  change stop.memory = (applyEffects manner.tracing memory
    ((Itinerary.ofWalk dialog node legs).effects dialog)).value.1
  rw [way]
  exact recounts.memory

end Dialog

end Narrative
