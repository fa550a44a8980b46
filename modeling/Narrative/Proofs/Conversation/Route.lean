import Narrative.Proofs.Conversation.Performance

/-!
# The route of a performance

A performance walks piece by piece: each beat that the player confirms goes on from the node where
the dialog waits, and all others stay there. The pieces put together are one path from the start of
the dialog, and all that the performance changes and shows are the effects and the lines along it.
-/

namespace Narrative

open Dialog (Manner Memory Stop Wait applyEffects)

/-- A running dialog as a stop of its walk, after some calls. -/
def Session.stop (session : Session) (memory : Memory) (calls : List Call) : Stop :=
  ⟨session.node, none, some session.wait, memory, calls⟩

/-- A turn after which a dialog stands on some node, where its way from the start and all calls so
far recount some legs. -/
structure Turn.Recounts (tracing : Tracing) (dialog : DialogGraph) (root : NodeId)
    (memory : Memory) (legs : List Leg) (earlier : List Call) (node : NodeId) (turn : Turn) :
    Prop where
  /-- The running dialog stands on the node. -/
  stands : ∀ session, turn.conversation.session = some session →
    session.dialog = dialog ∧ session.node = node
  /-- The way so far. -/
  recounts : Stop.Recounts tracing dialog root memory legs
    ⟨node, none, turn.conversation.session.map Session.wait,
      turn.conversation.memory turn.flags, earlier ++ turn.calls⟩

/-- The calls of a turn are as many in a row. -/
theorem Turn.Recounts.after {tracing : Tracing} {dialog : DialogGraph} {root : NodeId}
    {memory : Memory} {legs : List Leg} {earlier calls : List Call} {node : NodeId} {turn : Turn}
    (recounts : turn.Recounts tracing dialog root memory legs (earlier ++ calls) node) :
    (turn.after calls).Recounts tracing dialog root memory legs earlier node := by
  obtain ⟨stands, recounts⟩ := recounts
  rw [List.append_assoc] at recounts
  exact ⟨stands, recounts⟩

namespace Conversation

variable {conversation : Conversation} {session : Session} {tracing : Tracing} {root : NodeId}
  {memory : Memory} {legs : List Leg} {earlier : List Call}

/-- Bringing back the music is an aside. -/
theorem ending_asides (restore : Option (Option String)) :
    (Call.dialogEnd :: restoreCalls restore).all Call.isAside = true := by
  obtain _ | _ | cue := restore <;> rfl

/-- Highlighting an option is an aside. -/
theorem moveHighlight_asides (sounds : SoundCues) (input : Input) (count selected : Nat) :
    (moveHighlight sounds input count selected).2.all Call.isAside = true := by
  unfold moveHighlight
  split
  · rfl
  · split <;> rfl

/-- Opening a dialog is an aside. -/
theorem openingCalls_asides (dialog : DialogGraph) :
    (openingCalls dialog).all Call.isAside = true := by
  unfold openingCalls
  rw [List.all_append, List.all_append]
  cases dialog.music <;> cases dialog.firstCharacter? <;> rfl

/-- Where a walk came to is taken over with its way. -/
theorem settle_recounts {stop : Stop}
    (recounts : (stop.after earlier).Recounts tracing session.dialog root memory legs) :
    (settle conversation session stop).value.Recounts tracing session.dialog root memory legs
      earlier stop.node := by
  obtain ⟨node, character, wait, remembered, calls⟩ := stop
  cases wait with
  | none =>
    refine ⟨fun _ found => (by cases found), ?_⟩
    have finished := recounts.finish recounts.warrant rfl rfl (ending_asides session.restore)
    change Stop.Recounts _ _ _ _ _ ⟨node, none, none, remembered,
      earlier ++ (calls ++ Call.dialogEnd :: restoreCalls session.restore)⟩
    rw [← List.append_assoc]
    exact finished
  | some wait =>
    refine ⟨fun after found => ?_, recounts.warrant, recounts.path, recounts.memory,
      recounts.emitted, recounts.spells⟩
    obtain rfl := Option.some.inj found
    exact ⟨rfl, rfl⟩

/-- Going on over a port of the node where the dialog waits. -/
theorem goTo_recounts {flags : Flags}
    (before : (session.stop (conversation.memory flags) earlier).Recounts
      conversation.manner.tracing session.dialog root memory legs)
    (arrived : session.wait.arrived = true) (hidden : session.wait.hidden = [])
    (effectless : session.dialog.effectsAt session.node = []) (option : Option Nat)
    (effects : List Effect) (along : session.dialog.legEffects ⟨session.node, option⟩ = effects)
    (opens : session.dialog.Opens flags ⟨session.node, option⟩) {next : NodeId}
    (connected : session.dialog.graph.connected? session.node
      (option.elim Port.exit Port.option) = some next)
    {asked : List Call} (asides : asked.all Call.isAside = true) :
    let applied := (applyEffects conversation.manner.tracing (conversation.memory flags)
      effects).value
    ∃ node, (goTo conversation session next applied.1).value.Recounts conversation.manner.tracing
      session.dialog root memory
      (legs ++ ⟨session.node, option⟩ :: goToLegs conversation session next applied.1)
      (earlier ++ (asked ++ applied.2)) node :=
  ⟨_, settle_recounts (before.onward arrived hidden ⟨session.node, option⟩ rfl along effectless
    opens connected asides (Dialog.walk_recounts ..))⟩

/-- Staying for good at the node where the dialog waits. -/
theorem stall_recounts {flags : Flags}
    (before : (session.stop (conversation.memory flags) earlier).Recounts tracing session.dialog
      root memory legs)
    (arrived : session.wait.arrived = true) (hidden : session.wait.hidden = []) (port : String)
    {asked : List Call} (asides : asked.all Call.isAside = true) :
    (stall conversation session flags (.portUnwired port)).value.Recounts tracing session.dialog
      root memory legs (earlier ++ asked) session.node := by
  have dwells : Stop.Recounts tracing session.dialog root memory legs ⟨session.node,
      session.character, some (.stalled (.portUnwired port)), conversation.memory flags,
      earlier ++ asked⟩ := by
    refine before.dwell session.character trivial arrived.symm (Dialog.emitted_asides asides)
      fun transcript texts spells => ?_
    rw [Dialog.hearAll_asides asides]
    change transcript.Spells session.wait.hidden texts at spells
    rw [hidden] at spells
    exact spells
  rw [← List.append_nil (earlier ++ asked)] at dwells
  let stop : Stop := ⟨session.node, session.character, some (.stalled (.portUnwired port)),
    conversation.memory flags, []⟩
  have recounts : (stop.after (earlier ++ asked)).Recounts tracing session.dialog root memory
    legs := dwells
  exact settle_recounts recounts

/-- Keeping waiting at the node where the dialog waits. -/
theorem keep_recounts {flags : Flags}
    (before : (session.stop (conversation.memory flags) earlier).Recounts tracing session.dialog
      root memory legs)
    {wait : Wait} {calls : List Call} (warrant : Stop.Warranted session.dialog
      ⟨session.node, none, some wait, conversation.memory flags, earlier ++ calls⟩)
    (arrived : wait.arrived = session.wait.arrived)
    (silent : calls.filterMap Call.emitted? = [])
    (heard : ∀ (transcript : Transcript) (texts : List String),
      transcript.Spells session.wait.hidden texts →
        (transcript.hearAll calls).Spells wait.hidden texts) :
    (keep conversation session wait flags calls).Recounts tracing session.dialog root memory legs
      earlier session.node := by
  refine ⟨fun after found => ?_, before.dwell none warrant arrived silent heard⟩
  obtain rfl := Option.some.inj found
  exact ⟨rfl, rfl⟩

/-- Keeping waiting without a change of the text. -/
theorem keep_recounts_asides {flags : Flags}
    (before : (session.stop (conversation.memory flags) earlier).Recounts tracing session.dialog
      root memory legs)
    {wait : Wait} {calls : List Call} (warrant : Stop.Warranted session.dialog
      ⟨session.node, none, some wait, conversation.memory flags, earlier ++ calls⟩)
    (arrived : wait.arrived = session.wait.arrived) (hidden : session.wait.hidden = wait.hidden)
    (asides : calls.all Call.isAside = true) :
    (keep conversation session wait flags calls).Recounts tracing session.dialog root memory legs
      earlier session.node := by
  refine keep_recounts before warrant arrived (Dialog.emitted_asides asides)
    fun transcript texts spells => ?_
  rw [Dialog.hearAll_asides asides, ← hidden]
  exact spells

/-- Choosing an option whose port leads nowhere changes nothing but what the dialog waits for. -/
theorem choose_unwired {index : Nat} {flags : Flags}
    (unwired : session.dialog.graph.connected? session.node (Port.option index) = none) :
    (choose conversation session index flags).value =
      keep conversation session (.stalled (.portUnwired (Port.option index))) flags [] := by
  unfold choose
  rw [unwired]
  rfl

/-- Choosing an option. -/
theorem choose_recounts {flags : Flags}
    (before : (session.stop (conversation.memory flags) earlier).Recounts
      conversation.manner.tracing session.dialog root memory legs)
    (arrived : session.wait.arrived = true) (hidden : session.wait.hidden = [])
    {options : List DialogOption}
    (known : session.dialog.graph.kind? session.node = some (.branch .player options))
    {index : Nat} (within : index < options.length)
    {asked : List Call} (asides : asked.all Call.isAside = true) :
    ∃ node, (choose conversation session index flags).value.Recounts conversation.manner.tracing
      session.dialog root memory (legs ++ chooseLegs conversation session index flags)
      (earlier ++ asked) node := by
  unfold choose chooseLegs
  cases connected : session.dialog.graph.connected? session.node (Port.option index) with
  | none =>
    dsimp only
    rw [List.append_nil]
    exact ⟨_, stall_recounts before arrived hidden _ asides⟩
  | some next =>
    have effectless : session.dialog.effectsAt session.node = [] :=
      DialogGraph.effectsAt_of_kind known
    rw [known]
    dsimp only
    rw [Logged.value_bind, Logged.value_bind]
    have along := DialogGraph.legEffects_option known index
    have opens := DialogGraph.opens_choice known within flags
    obtain ⟨node, recounts⟩ := goTo_recounts before arrived hidden effectless (some index) _ along
      opens connected asides
    rw [← List.append_assoc] at recounts
    exact ⟨node, recounts.after⟩

/-- Going on with a running dialog for one tick. -/
theorem resumeSession_recounts {flags : Flags} (integral : session.Integral)
    (before : (session.stop (conversation.memory flags) earlier).Recounts
      conversation.manner.tracing session.dialog root memory legs)
    (tick : Tick) (animating : Bool) :
    ∃ node, (resumeSession conversation session tick animating flags).value.Recounts
      conversation.manner.tracing session.dialog root memory
      (legs ++ sessionLegs conversation session tick animating flags) earlier node := by
  obtain ⟨inside, borne⟩ := integral
  unfold resumeSession sessionLegs
  dsimp only
  cases waiting : session.wait with
  | reveal remaining budget speaker =>
    dsimp only
    rw [ite_self, List.append_nil]
    obtain ⟨warrant, arrived⟩ := Dialog.revealLine_waits conversation.manner remaining
      (budget.add tick.elapsed) speaker session.dialog
      ⟨session.node, none, _, conversation.memory flags, earlier ++ (Dialog.revealLine
        conversation.manner remaining (budget.add tick.elapsed) speaker).2⟩ rfl
    refine ⟨_, keep_recounts before warrant (arrived.trans (congrArg Wait.arrived waiting).symm)
      (Dialog.emitted_staging (Dialog.revealLine_staging ..))
      fun transcript texts spells => Dialog.revealLine_spells _ _ _ ?_⟩
    rw [waiting] at spells
    exact spells
  | confirm =>
    have arrived : session.wait.arrived = true := congrArg Wait.arrived waiting
    have hidden : session.wait.hidden = [] := congrArg Wait.hidden waiting
    rw [waiting] at borne
    obtain ⟨line, known⟩ := borne
    have effectless : session.dialog.effectsAt session.node = [] :=
      DialogGraph.effectsAt_of_kind known
    have asides :
      [Call.playSound conversation.manner.sounds.decide].all Call.isAside = true := rfl
    dsimp only
    split
    · cases connected : session.dialog.graph.connected? session.node Port.exit with
      | none =>
        dsimp only
        rw [List.append_nil]
        exact ⟨_, (stall_recounts before arrived hidden _ asides).after⟩
      | some next =>
        have along := (DialogGraph.legEffects_exit session.node).trans effectless
        have opens := DialogGraph.opens_line known flags
        obtain ⟨node, recounts⟩ := goTo_recounts before arrived hidden effectless none [] along
          opens connected asides
        exact ⟨node, recounts.after⟩
    · rw [List.append_nil]
      exact ⟨_, keep_recounts_asides before trivial arrived.symm hidden rfl⟩
  | choose count selected =>
    have arrived : session.wait.arrived = true := congrArg Wait.arrived waiting
    have hidden : session.wait.hidden = [] := congrArg Wait.hidden waiting
    rw [waiting] at borne
    obtain ⟨options, known, rfl, within⟩ := borne
    have moves := moveHighlight_asides conversation.manner.sounds tick.input options.length selected
    dsimp only
    split
    · have asides : ((moveHighlight conversation.manner.sounds tick.input options.length
          selected).2 ++ [Call.playSound conversation.manner.sounds.decide, .hideOptions]).all
          Call.isAside = true := by
        rw [List.all_append, moves]
        rfl
      obtain ⟨node, recounts⟩ := choose_recounts before arrived hidden known
        (moveHighlight_lt conversation.manner.sounds tick.input within) asides
      exact ⟨node, recounts.after⟩
    · rw [List.append_nil]
      exact ⟨_, keep_recounts_asides before trivial arrived.symm hidden moves⟩
  | closing remaining =>
    have arrived : session.wait.arrived = true := congrArg Wait.arrived waiting
    have hidden : session.wait.hidden = [] := congrArg Wait.hidden waiting
    rw [waiting] at borne
    dsimp only
    rw [ite_self, List.append_nil]
    split
    · exact ⟨session.node, fun _ found => (by cases found),
        before.finish borne.1 arrived hidden (ending_asides _)⟩
    · exact ⟨_, keep_recounts_asides before trivial arrived.symm hidden rfl⟩
  | stalled reason =>
    dsimp only
    rw [ite_self, List.append_nil]
    have warrant := before.warrant
    unfold Session.stop at warrant
    rw [waiting] at warrant
    exact ⟨_, keep_recounts_asides before warrant (congrArg Wait.arrived waiting).symm
      (congrArg Wait.hidden waiting) rfl⟩

/-- Going on for one tick. -/
theorem resume_recounts {dialog : DialogGraph} {flags : Flags} {node : NodeId} {manner : Manner}
    (integral : conversation.Integral manner)
    (stands : ∀ session, conversation.session = some session →
      session.dialog = dialog ∧ session.node = node)
    (before : Stop.Recounts manner.tracing dialog root memory legs ⟨node, none,
      conversation.session.map Session.wait, conversation.memory flags, earlier⟩)
    (tick : Tick) (animating : Bool) :
    ∃ node, (conversation.resume tick animating flags).value.Recounts manner.tracing dialog root
      memory (legs ++ conversation.resumeLegs tick animating flags) earlier node := by
  unfold resume resumeLegs
  cases running : conversation.session with
  | some session =>
    obtain ⟨rfl, rfl⟩ := stands session running
    obtain ⟨rfl, sessions⟩ := integral
    rw [running] at before
    exact resumeSession_recounts (sessions session running) before tick animating
  | none =>
    rw [running] at before
    rw [← List.append_nil earlier] at before
    dsimp only [Option.elim]
    rw [List.append_nil]
    refine ⟨node, ?_⟩
    split
    · exact ⟨fun _ found => (by cases found), before⟩
    · exact ⟨fun _ found => (by cases found), before⟩

/-- Starting a dialog. -/
theorem start_recounts {dialog : DialogGraph} {music : Option String} {flags : Flags}
    {turn : Logged Turn} (started : conversation.start dialog music flags = .ok turn) :
    ∃ root node, dialog.graph.start = .ok root ∧
      turn.value.Recounts conversation.manner.tracing dialog root (conversation.memory flags)
        (conversation.startLegs dialog flags) [] node := by
  obtain ⟨-, root, begins, same⟩ := start_ok started
  unfold startLegs
  rw [begins, same]
  let session : Session :=
    ⟨dialog, root, .confirm, dialog.firstCharacter?, dialog.music.map fun _ => music⟩
  let ready : Conversation := { conversation with idleReported := false }
  let stop := (Dialog.run conversation.manner dialog root session.character
    (conversation.memory flags)).value
  have walked : (stop.after (openingCalls dialog)).Recounts conversation.manner.tracing dialog root
      (conversation.memory flags) (Dialog.walkLegs conversation.manner dialog
        (dialog.graph.size + 1) root (conversation.memory flags)) :=
    (Dialog.walk_recounts ..).prelude (openingCalls_asides dialog)
  have settled : (settle { conversation with idleReported := false } session stop).value.Recounts
      conversation.manner.tracing session.dialog root (conversation.memory flags) _
      (openingCalls dialog) stop.node := settle_recounts walked
  exact ⟨root, stop.node, rfl, Turn.Recounts.after settled⟩

end Conversation

/-- A performance of a dialog whose way from the start, and all that the recorder has kept, recount
some legs to a node. -/
structure Performance.Recounts (manner : Manner) (dialog : DialogGraph) (root : NodeId)
    (memory : Memory) (legs : List Leg) (node : NodeId) (performance : Performance) : Prop where
  /-- The conversation is integral. -/
  integral : performance.conversation.Integral manner
  /-- The running dialog stands on the node. -/
  stands : ∀ session, performance.conversation.session = some session →
    session.dialog = dialog ∧ session.node = node
  /-- The way so far. -/
  recounts : Stop.Recounts manner.tracing dialog root memory legs
    ⟨node, none, performance.wait?, performance.memory, performance.host.calls⟩

namespace Performance

variable {performance opening : Performance} {conversation : Conversation} {dialog : DialogGraph}
  {flags : Flags} {host : Recorder} {manner : Manner} {root node : NodeId} {memory : Memory}
  {route : List Leg}

/-- The nodes that some beats leave. -/
def legs (performance : Performance) : List Beat → List Leg
  | [] => []
  | beat :: rest =>
    performance.conversation.resumeLegs beat.tick beat.animating performance.flags
      ++ (performance.resume beat).legs rest

/-- A turn is taken over with its way. -/
theorem take_recounts {turn : Turn} (integral : turn.conversation.Integral manner)
    (recounts : turn.Recounts manner.tracing dialog root memory route host.calls node) :
    (take host turn).Recounts manner dialog root memory route node := by
  refine ⟨integral, recounts.stands, ?_⟩
  rw [calls_take]
  exact recounts.recounts

/-- A performance starts with a way. -/
theorem start_recounts (fresh : host.calls = [])
    (started : start conversation dialog flags host = .ok opening) :
    ∃ root node, dialog.graph.start = .ok root ∧
      opening.Recounts conversation.manner dialog root (conversation.memory flags)
        (conversation.startLegs dialog flags) node := by
  have integral := start_integral started
  obtain ⟨turn, begun, rfl⟩ := start_ok started
  obtain ⟨root, node, begins, recounts⟩ := Conversation.start_recounts begun
  rw [← fresh] at recounts
  exact ⟨root, node, begins, take_recounts integral recounts⟩

/-- A beat goes on with the way. -/
theorem Recounts.resume (recounts : performance.Recounts manner dialog root memory route node)
    (beat : Beat) :
    ∃ node, (performance.resume beat).Recounts manner dialog root memory
      (route ++ performance.conversation.resumeLegs beat.tick beat.animating performance.flags)
      node := by
  obtain ⟨integral, stands, recounts⟩ := recounts
  obtain ⟨node, onward⟩ := Conversation.resume_recounts integral stands recounts beat.tick
    beat.animating
  exact ⟨node, take_recounts (resume_integral integral beat) onward⟩

/-- Beats go on with the way. -/
theorem Recounts.play (recounts : performance.Recounts manner dialog root memory route node)
    (beats : List Beat) :
    ∃ node, (performance.play beats).Recounts manner dialog root memory
      (route ++ performance.legs beats) node := by
  induction beats generalizing performance route node with
  | nil => exact ⟨node, (List.append_nil route).symm ▸ recounts⟩
  | cons beat rest ih =>
    obtain ⟨node, onward⟩ := recounts.resume beat
    rw [Performance.legs, ← List.append_assoc]
    exact ih onward

/-- The lines that a performance has shown are those on its way, but for the characters that are
still to come. -/
theorem Recounts.lines (recounts : performance.Recounts manner dialog root memory route node) :
    let texts := (Itinerary.ofWait route node performance.wait?).texts dialog
    (performance.wait?.elim [] Wait.hidden = [] → performance.host.lines = texts) ∧
      ∀ remaining budget speaker,
        performance.wait? = some (.reveal remaining budget speaker) →
          remaining ≠ [] ∧ ∃ earlier shown,
            performance.host.lines = earlier ++ [String.ofList shown] ∧
              texts = earlier ++ [String.ofList (shown ++ remaining)] := by
  have spells := recounts.recounts.spells Transcript.blank
  rw [Recorder.lines_eq_transcript]
  refine ⟨fun hidden => ?_, fun remaining budget speaker waits => ?_⟩
  · change Transcript.Spells _ (performance.wait?.elim [] Wait.hidden) _ at spells
    rw [hidden] at spells
    exact spells.whole
  · obtain ⟨session, running, waiting⟩ := Option.map_eq_some_iff.1 waits
    have borne := (recounts.integral.session session running).wait
    rw [waiting] at borne
    obtain ⟨-, -, -, -, -, some⟩ := borne
    dsimp only at spells
    rw [waits] at spells
    obtain ⟨shown, lines, texts⟩ := spells.split some
    rw [waits]
    exact ⟨some, _, shown, lines, texts⟩

/-- A choice that the player confirms leaves the branch by the option that is highlighted, if its
port is connected; otherwise the dialog stays where it is, and nothing changes. -/
theorem Recounts.choose (recounts : performance.Recounts manner dialog root memory route node)
    {count selected : Nat} (waits : performance.wait? = some (.choose count selected)) {beat : Beat}
    (confirms : beat.confirms = true) :
    let index := (Conversation.moveHighlight manner.sounds beat.tick.input count selected).1
    match dialog.graph.connected? node (Port.option index) with
    | none => performance.legs [beat] = [] ∧
        (performance.resume beat).conversation.node? = some node ∧
        (performance.resume beat).wait? = some (.stalled (.portUnwired (Port.option index))) ∧
        (performance.resume beat).memory = performance.memory
    | some _ => ∃ others, performance.legs [beat] = ⟨node, some index⟩ :: others := by
  obtain ⟨session, running, waiting⟩ := Option.map_eq_some_iff.1 waits
  obtain ⟨rfl, rfl⟩ := recounts.stands session running
  obtain ⟨rfl, -⟩ := recounts.integral
  intro index
  have left : performance.legs [beat] =
      performance.conversation.chooseLegs session index performance.flags := by
    refine (List.append_nil _).trans ?_
    unfold Conversation.resumeLegs
    rw [running]
    change Conversation.sessionLegs performance.conversation session beat.tick beat.animating
      performance.flags = _
    unfold Conversation.sessionLegs
    rw [waiting]
    exact if_pos confirms
  have turn : (performance.conversation.resume beat.tick beat.animating performance.flags).value =
      _ := Conversation.resume_choose running waiting confirms performance.flags
  unfold Conversation.chooseLegs at left
  cases connected : session.dialog.graph.connected? session.node (Port.option index) with
  | none =>
    rw [connected] at left
    rw [Conversation.choose_unwired connected] at turn
    have after : performance.resume beat =
      take { performance.host with animating := beat.animating } _ := congrArg (take _) turn
    rw [after]
    exact ⟨left, rfl, rfl, rfl⟩
  | some next =>
    rw [connected] at left
    exact ⟨_, left⟩

/-- A guard at a gate, who trusts those who bow to him. -/
def gate : DialogGraph :=
  ⟨⟨"gate",
    [⟨.start, [⟨Port.exit, some 1⟩]⟩,
      ⟨.event [.activateFlag "met", .emit "door"], [⟨Port.exit, some 2⟩]⟩,
      ⟨.line ⟨.character "Guard", "Halt!", none⟩, [⟨Port.exit, some 3⟩]⟩,
      ⟨.branch .player [⟨"Bow", none, 0, [.addValue "trust" 1]⟩, ⟨"Leave", none, 0, []⟩],
        [⟨Port.option 0, some 4⟩, ⟨Port.option 1, some 6⟩]⟩,
      ⟨.branch .automatic
          [⟨"friend", some ⟨.unit "trust", .greaterOrEqual⟩, 1, [.emit "trusted"]⟩,
            ⟨"stranger", none, 0, []⟩],
        [⟨Port.option 0, some 5⟩, ⟨Port.option 1, some 6⟩]⟩,
      ⟨.line ⟨.character "Guard", "Pass.", none⟩, [⟨Port.exit, some 6⟩]⟩, ⟨.finish, []⟩]⟩, none⟩

end Performance

end Narrative
