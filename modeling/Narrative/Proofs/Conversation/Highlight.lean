import Narrative.Proofs.Conversation.Timing
import Narrative.Proofs.Dialog.Arrival

/-!
# The highlighted option is the chosen one

A choice of the player remembers only the place of one option among those of its branch. Every
press moves it by one, and not past the first or the last; the host is told of every move. So what
the player sees highlighted is what a confirmed press chooses, together with the move that the same
press makes.
-/

namespace Narrative

open Dialog (Manner Memory Stop Wait applyEffects)

/-- How far a press moves the highlight. Up goes before down. -/
def Input.shift (input : Input) : Int :=
  if input.up then -1 else if input.down then 1 else 0

/-- The place among some options to which a press moves the highlight: neither before the first nor
after the last. -/
def Input.move (count : Nat) (place : Int) (input : Input) : Int :=
  max 0 (min (count - 1) (place + input.shift))

/-- The place to which all presses of some moments move the highlight from the first option. -/
def Moment.highlighted (count : Nat) (moments : List Moment) : Int :=
  moments.foldl (fun place moment => moment.tick.input.move count place) 0

/-- One more moment moves the highlight once more. -/
theorem Moment.highlighted_concat (count : Nat) (moments : List Moment) (moment : Moment) :
    highlighted count (moments ++ [moment]) =
      moment.tick.input.move count (highlighted count moments) :=
  List.foldl_concat ..

namespace Call

/-- The highlighted option after one more call, if options are shown. -/
def highlightAfter (shown : Option Nat) : Call → Option Nat
  | showOptions _ => some 0
  | highlight index => shown.map fun _ => index
  | hideOptions => none
  | _ => shown

/-- The highlighted option after some calls, if options are shown: the first of them, until another
one is highlighted. -/
def highlighted? (calls : List Call) : Option Nat := calls.foldl highlightAfter none

/-- Options that are shown last begin with the first one highlighted. -/
theorem highlighted?_showOptions (before : List Call) (options : List String)
    (after : List Call) :
    highlighted? (before ++ [.showOptions options] ++ after) =
      after.foldl highlightAfter (some 0) := by
  unfold highlighted?
  rw [List.foldl_append, List.foldl_concat]
  rfl

end Call

namespace Conversation

/-- What a press asks of the host. -/
theorem calls_moveHighlight (sounds : SoundCues) (input : Input) (count selected : Nat) :
    let moved := moveHighlight sounds input count selected
    moved.2 =
      if input.up || input.down then [.playSound sounds.cursor, .highlight moved.1] else [] := by
  unfold moveHighlight
  obtain ⟨-, up, down⟩ := input
  cases up <;> cases down <;> rfl

/-- The host highlights what a press moves to. -/
theorem shown_moveHighlight (sounds : SoundCues) (input : Input) (count selected : Nat) :
    let moved := moveHighlight sounds input count selected
    moved.2.foldl Call.highlightAfter (some selected) = some moved.1 := by
  unfold moveHighlight
  obtain ⟨-, up, down⟩ := input
  cases up <;> cases down <;> rfl

/-- A press moves the highlight by one, within the options. -/
theorem place_moveHighlight (sounds : SoundCues) (input : Input) {count selected : Nat}
    (within : selected < count) :
    ((moveHighlight sounds input count selected).1 : Int) = input.move count selected := by
  unfold moveHighlight Input.move Input.shift
  split
  · dsimp only
    omega
  · split <;> dsimp only <;> omega

end Conversation

/-- The session while it waits for a choice among some options, one of which is highlighted. -/
def Session.choosing (session : Session) (count selected : Nat) : Session :=
  { session with wait := .choose count selected }

/-- A turn that comes to a choice of the player: its options are shown, and the first one is
highlighted. -/
structure Turn.Chooses (dialog : DialogGraph) (node : NodeId) (options : List DialogOption)
    (turn : Turn) : Prop where
  /-- There is something to choose from. -/
  stocked : options ≠ []
  /-- The dialog waits for a choice. -/
  waits : ∃ session : Session, session.dialog = dialog ∧ session.node = node ∧
    turn.conversation.session = some (session.choosing options.length 0)
  /-- The options are shown last. -/
  shown : ∃ before, turn.calls = before ++ [.showOptions (options.map DialogOption.text)]

/-- Calls before those of a turn do not matter to the choice. -/
theorem Turn.Chooses.after {dialog : DialogGraph} {node : NodeId} {options : List DialogOption}
    {turn : Turn} (chooses : turn.Chooses dialog node options) (calls : List Call) :
    (turn.after calls).Chooses dialog node options := by
  obtain ⟨stocked, waits, before, shown⟩ := chooses
  refine ⟨stocked, waits, calls ++ before, ?_⟩
  rw [List.append_assoc, ← shown]
  rfl

namespace Conversation

variable {conversation : Conversation} {session : Session} {dialog : DialogGraph} {node : NodeId}
  {options : List DialogOption} {flags : Flags}

/-- Going on at a node comes to the choice where the walk stops, unless the dialog stalls. -/
theorem goTo_chooses {next root : NodeId} {memory before : Memory} {tracing : Tracing}
    {legs : List Leg}
    (goes : (goTo conversation session next memory).value.Goes tracing session.dialog root before
      legs node)
    (goesOn : (goTo conversation session next memory).value.progress ≠ .stalled)
    (known : session.dialog.graph.kind? node = some (.branch .player options)) :
    (goTo conversation session next memory).value.Chooses session.dialog node options := by
  have arrives := Dialog.walk_arrives conversation.manner session.dialog
    (session.dialog.graph.size + 1) next session.character memory
  unfold goTo at goes goesOn ⊢
  rw [Logged.value_bind] at goes goesOn ⊢
  unfold Dialog.run at goes goesOn ⊢
  generalize (Dialog.walk conversation.manner session.dialog (session.dialog.graph.size + 1) next
    session.character memory).value = stop at goes goesOn arrives ⊢
  -- At any other stop the dialog stalls, or the node is not the choice.
  cases arrives with
  | line events other =>
    obtain rfl := (goes.stands _ rfl).2
    cases other.symm.trans known
  | choice events same stocked =>
    obtain rfl := (goes.stands _ rfl).2.symm
    cases same.symm.trans known
    exact ⟨stocked, ⟨{ session with node := node }, rfl, rfl, rfl⟩, _, rfl⟩
  | finish events other =>
    by_cases instant : conversation.manner.pace.delay.isZero = true
    · rw [if_pos instant] at goes
      cases (goes.ended rfl).symm.trans known
    · rw [if_neg instant] at goes
      obtain rfl := (goes.stands _ rfl).2
      cases other.symm.trans known
  | stall events reason => exact absurd rfl goesOn

/-- The start of a dialog comes to the node where the dialog stands then. -/
theorem start_enters {music : Option String} {turn : Logged Turn}
    (started : conversation.start dialog music flags = .ok turn)
    (stands : turn.value.conversation.node? = some node) :
    Enters conversation dialog node turn.value := by
  obtain ⟨root, last, -, goes⟩ := start_goes started
  obtain ⟨session, running, here⟩ := Option.map_eq_some_iff.1 stands
  rw [(goes.stands session running).2] at here
  exact .start started (here ▸ goes)

/-- A turn that comes to a choice shows its options, unless the dialog stalls. -/
theorem Enters.chooses {turn : Turn} (enters : Enters conversation dialog node turn)
    (goesOn : turn.progress ≠ .stalled)
    (known : dialog.graph.kind? node = some (.branch .player options)) :
    turn.Chooses dialog node options := by
  cases enters with
  | start started goes =>
    obtain ⟨-, root, begins, same⟩ := start_ok started
    rw [same] at goes goesOn ⊢
    exact (goTo_chooses goes.of_after goesOn known).after _
  | resume running leaves goes =>
    unfold resumeLegs at leaves
    unfold Conversation.resume at goes goesOn ⊢
    rw [running] at leaves goes goesOn ⊢
    obtain ⟨next, memory, calls, -, same⟩ := resumeSession_leaves leaves
    dsimp only at goes goesOn ⊢
    rw [same] at goes goesOn ⊢
    exact (goTo_chooses goes.of_after goesOn known).after _

/-- A moment at which nothing is confirmed moves the highlight. -/
theorem turn_choosing {count selected : Nat}
    (running : conversation.session = some (session.choosing count selected)) {moment : Moment}
    (unconfirmed : moment.confirms = false) :
    let moved := moveHighlight conversation.manner.sounds moment.tick.input count selected
    conversation.turn moment =
      keep conversation session (.choose count moved.1) moment.flags moved.2 := by
  unfold turn Conversation.resume
  rw [running]
  unfold resumeSession Session.choosing
  dsimp only
  rw [if_neg (by rw [← Moment.confirms, unconfirmed]; decide)]
  rfl

/-- Moments at which nothing is confirmed move the highlight one after the other, and the host shows
it. -/
theorem through_choosing {count : Nat} (stocked : 0 < count)
    (running : conversation.session = some (session.choosing count 0)) {moments : List Moment}
    (unconfirmed : ∀ moment ∈ moments, moment.confirms = false) :
    ∃ index : Nat, (index : Int) = Moment.highlighted count moments ∧ index < count ∧
      conversation.through moments =
        { conversation with session := some (session.choosing count index) } ∧
      (conversation.asks moments).foldl Call.highlightAfter (some 0) = some index := by
  -- The last press moves the highlight from where all others have left it.
  induction moments using List.reverseRecOn with
  | nil =>
    refine ⟨0, rfl, stocked, ?_, rfl⟩
    rw [← running]
    rfl
  | append_singleton earlier moment ih =>
    obtain ⟨selected, place, within, stands, shown⟩ :=
      ih fun other among => unconfirmed other (List.mem_append_left _ among)
    let here : Conversation :=
      { conversation with session := some (session.choosing count selected) }
    have standing : here.session = some (session.choosing count selected) := rfl
    have turns := turn_choosing standing (unconfirmed moment (by simp))
    have moves := place_moveHighlight here.manner.sounds moment.tick.input within
    refine ⟨_, ?_, moveHighlight_lt here.manner.sounds moment.tick.input within, ?_, ?_⟩
    · rw [Moment.highlighted_concat, ← place, moves]
    · rw [through_concat, stands, turns]
      rfl
    · rw [asks_concat, stands, turns, List.foldl_append, shown]
      exact shown_moveHighlight ..

/-- A confirmed press chooses the option to which it moves the highlight. Its effects are applied
and its port is followed; if that leads nowhere, the dialog stalls where it is. -/
theorem turn_chosen {count selected : Nat}
    (running : conversation.session = some (session.choosing count selected)) {moment : Moment}
    (confirmed : moment.confirms = true)
    (known : session.dialog.graph.kind? session.node = some (.branch .player options)) :
    let moved := moveHighlight conversation.manner.sounds moment.tick.input count selected
    let answered := moved.2 ++ [.playSound conversation.manner.sounds.decide, .hideOptions]
    conversation.turn moment =
      match session.dialog.graph.connected? session.node (Port.option moved.1) with
      | none =>
        keep conversation session (.stalled (.portUnwired (Port.option moved.1))) moment.flags
          answered
      | some next =>
        let applied := (applyEffects conversation.manner.tracing
          (conversation.memory moment.flags)
          ((options[moved.1]?).elim [] DialogOption.effects)).value
        (goTo conversation session next applied.1).value.after (answered ++ applied.2) := by
  intro moved answered
  have chosen : conversation.turn moment = (choose conversation (session.choosing count selected)
      moved.1 moment.flags).value.after answered := resume_choose running rfl confirmed moment.flags
  rw [chosen]
  cases connected : session.dialog.graph.connected? session.node (Port.option moved.1) with
  | none =>
    have stalled : (choose conversation (session.choosing count selected) moved.1
        moment.flags).value = _ := choose_unwired connected
    rw [stalled]
    unfold Turn.after keep
    rw [List.append_nil]
    rfl
  | some next =>
    unfold choose
    rw [show (session.choosing count selected).dialog = session.dialog from rfl,
      show (session.choosing count selected).node = session.node from rfl, connected, known]
    dsimp only
    rw [Logged.value_bind, Logged.value_bind]
    exact Turn.after_after ..

/-- When a turn comes to a choice of the player and the dialog does not stall, the options of the
branch are shown, and as long as nothing is confirmed, the dialog waits with the place to which the
presses have moved the highlight from the first option, each by one and within the options; the host
highlights the same option. A confirmed press moves the highlight once more and chooses what is
highlighted then: the effects of just that option are applied and its port is followed, or the
dialog stalls at the branch, and nothing is applied, if this port leads nowhere. -/
theorem highlighted_is_chosen (conversation : Conversation) (dialog : DialogGraph) (node : NodeId)
    (turn : Turn) (enters : Enters conversation dialog node turn)
    (goesOn : turn.progress ≠ .stalled) (options : List DialogOption)
    (known : dialog.graph.kind? node = some (.branch .player options)) :
    let count := options.length
    ∃ (session : Session) (before : List Call),
      session.dialog = dialog ∧ session.node = node ∧
      turn.calls = before ++ [.showOptions (options.map DialogOption.text)] ∧
      ∀ moments, (∀ moment ∈ moments, moment.confirms = false) →
        ∃ index : Nat, (index : Int) = Moment.highlighted count moments ∧ index < count ∧
          let waiting : Conversation :=
            { turn.conversation with session := some (session.choosing count index) }
          let calls := turn.calls ++ turn.conversation.asks moments
          turn.conversation.through moments = waiting ∧ Call.highlighted? calls = some index ∧
          ∀ moment, moment.confirms = true →
            ∃ (chosen : Nat) (option : DialogOption),
              (chosen : Int) = Moment.highlighted count (moments ++ [moment]) ∧
              options[chosen]? = some option ∧
              let sounds := conversation.manner.sounds
              let input := moment.tick.input
              let moves : List Call :=
                if input.up || input.down then [.playSound sounds.cursor, .highlight chosen] else []
              let answered := moves ++ [.playSound sounds.decide, .hideOptions]
              Call.highlighted? (calls ++ moves) = some chosen ∧
              waiting.turn moment =
                match dialog.graph.connected? node (Port.option chosen) with
                | none =>
                  keep waiting session (.stalled (.portUnwired (Port.option chosen))) moment.flags
                    answered
                | some next =>
                  let applied := (applyEffects conversation.manner.tracing
                    (waiting.memory moment.flags) option.effects).value
                  (goTo waiting session next applied.1).value.after (answered ++ applied.2) := by
  intro count
  obtain ⟨stocked, ⟨session, rfl, rfl, running⟩, before, shows⟩ := enters.chooses goesOn known
  have kept : turn.conversation.manner = conversation.manner := (enters.fresh goesOn).kept
  refine ⟨session, before, rfl, rfl, shows, fun moments unconfirmed => ?_⟩
  obtain ⟨index, place, within, stands, shown⟩ :=
    through_choosing (List.length_pos_iff.2 stocked) running unconfirmed
  refine ⟨index, place, within, ?_⟩
  intro waiting calls
  have seen : Call.highlighted? calls = some index := by
    unfold calls
    rw [shows, Call.highlighted?_showOptions, shown]
  refine ⟨stands, seen, fun moment confirmed => ?_⟩
  let moved := moveHighlight conversation.manner.sounds moment.tick.input count index
  have chooses : moved.1 < options.length := moveHighlight_lt _ _ within
  refine ⟨moved.1, options[moved.1], ?_, List.getElem?_eq_getElem chooses, ?_⟩
  · rw [Moment.highlighted_concat, ← place]
    exact place_moveHighlight _ _ within
  · have moves := calls_moveHighlight conversation.manner.sounds moment.tick.input count index
    have highlights := shown_moveHighlight conversation.manner.sounds moment.tick.input count index
    have waits : waiting.session = some (session.choosing options.length index) := rfl
    have turns := turn_chosen waits confirmed known
    dsimp only at moves highlights turns ⊢
    rw [← moves]
    refine ⟨?_, ?_⟩
    · rw [Call.highlighted?, List.foldl_append, ← Call.highlighted?, seen]
      exact highlights
    · rw [show waiting.manner = conversation.manner from kept,
        List.getElem?_eq_getElem chooses] at turns
      exact turns

/-- A choice of three ways, the last of which leads nowhere. -/
def threeWays : DialogGraph :=
  ⟨⟨"three ways",
    [⟨.start, [⟨Port.exit, some 1⟩]⟩,
      ⟨.branch .player [⟨"Left", none, 0, [.emit "left"]⟩, ⟨"Ahead", none, 0, [.emit "ahead"]⟩,
          ⟨"Right", none, 0, [.emit "right"]⟩],
        [⟨Port.option 0, some 2⟩, ⟨Port.option 1, some 2⟩]⟩,
      ⟨.finish, []⟩]⟩, none⟩

/-- A player who goes down too often and up again, and confirms while an illustration is moving,
sees the second of three ways highlighted. A press that goes down and confirms then chooses the last
one, and the dialog stalls without a word of it. -/
theorem highlighted_is_chosen_threeWays :
    let press (confirm up down animating : Bool) : Moment :=
      ⟨.press ⟨confirm, up, down⟩, animating, ∅⟩
    let down := press false false true false
    let hesitation := [down, down, down, press true true true true]
    let answer := press true false true false
    ∃ turn, (ofConfig .standard).start threeWays none ∅ = .ok turn ∧
      Enters (ofConfig .standard) threeWays 1 turn.value ∧ turn.value.progress ≠ .stalled ∧
      Call.highlighted? (turn.value.calls ++ turn.value.conversation.asks hesitation) = some 1 ∧
      ((turn.value.conversation.through hesitation).turn answer).progress = .stalled ∧
      ((turn.value.conversation.through hesitation).turn answer).calls.filterMap
        Call.emitted? = [] := by
  intro press down hesitation answer
  obtain ⟨turn, started, stands, goesOn⟩ : ∃ turn,
      (ofConfig .standard).start threeWays none ∅ = .ok turn ∧
        turn.value.conversation.node? = some 1 ∧ turn.value.progress ≠ .stalled :=
    ⟨_, rfl, by decide, by decide⟩
  have enters : Enters (ofConfig .standard) threeWays 1 turn.value := start_enters started stands
  obtain ⟨session, before, -, -, -, chooses⟩ :=
    highlighted_is_chosen _ _ _ _ enters goesOn _ rfl
  obtain ⟨index, place, -, waits, seen, answers⟩ := chooses hesitation (by decide)
  obtain ⟨chosen, option, goal, -, -, turns⟩ := answers answer rfl
  have second : index = 1 := Int.ofNat_inj.1 place
  have third : chosen = 2 := Int.ofNat_inj.1 goal
  subst second third
  refine ⟨turn, started, enters, goesOn, seen, ?_⟩
  rw [waits, turns]
  exact ⟨rfl, rfl⟩

end Conversation

end Narrative
