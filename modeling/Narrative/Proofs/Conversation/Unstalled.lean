import Narrative.Conversation
import Narrative.Proofs.Dialog.Passage

/-!
# Conversations that never stall

A conversation about a dialog that can be walked, and in which every cycle pauses, is always either
over or in a wait that its node bears out. The lint vouches for the first, so that a dialog of a
bundle whose report passes never stalls, whatever the flags, the host and the player do.
-/

namespace Narrative

open Dialog (Manner Memory Stop Wait)

/-- A supported wait is not a stall. -/
theorem Dialog.Wait.Supported.progress_ne {dialog : DialogGraph} {node : NodeId} {wait : Wait}
    (supported : wait.Supported dialog node) : wait.progress ≠ .stalled := by
  cases wait with
  | stalled reason => exact supported.elim
  | _ => exact nofun

/-- A session that cannot stall. -/
structure Session.Supported (session : Session) : Prop where
  /-- The dialog can be walked. -/
  walkable : session.dialog.Walkable
  /-- Every cycle of the dialog pauses. -/
  pausing : session.dialog.Pausing
  /-- The node bears out the wait. -/
  wait : session.wait.Supported session.dialog session.node

/-- A moment at which a conversation goes on. -/
structure Moment where
  /-- The time passed and what the player presses. -/
  tick : Tick
  /-- Whether an illustration is moving. -/
  animating : Bool
  /-- The flags at that moment. -/
  flags : Flags

namespace Conversation

/-- How far a conversation has come at each of some moments. -/
def progresses (conversation : Conversation) : List Moment → List Progress
  | [] => []
  | moment :: rest =>
    let turn := (conversation.resume moment.tick moment.animating moment.flags).value
    turn.progress :: turn.conversation.progresses rest

/-- A conversation without a session that can stall. -/
def Supported (conversation : Conversation) : Prop :=
  ∀ session, conversation.session = some session → session.Supported

/-- A conversation without a session cannot stall. -/
theorem supported_of_idle {conversation : Conversation} (idle : conversation.session = none) :
    conversation.Supported := by
  intro session found
  rw [idle] at found
  cases found

end Conversation

/-- A turn that has not stalled, and after which the conversation cannot stall. -/
structure Turn.Unstalled (turn : Turn) : Prop where
  /-- The conversation cannot stall. -/
  supported : turn.conversation.Supported
  /-- The turn has not stalled. -/
  progress : turn.progress ≠ .stalled

namespace Conversation

variable {session : Session}

/-- A dialog that is over cannot stall. -/
theorem finish_unstalled (conversation : Conversation) (session : Session) (flags : Flags) :
    (finish conversation session flags).value.Unstalled :=
  ⟨supported_of_idle rfl, nofun⟩

/-- Where a supported walk came to does not stall. -/
theorem settle_unstalled (conversation : Conversation) {stop : Stop}
    (walkable : session.dialog.Walkable) (pausing : session.dialog.Pausing)
    (supported : stop.Supported session.dialog) :
    (settle conversation session stop).value.Unstalled := by
  unfold settle
  split
  · exact ⟨supported_of_idle rfl, nofun⟩
  · next wait waiting =>
    have borne := supported wait waiting
    refine ⟨fun after same => ?_, borne.progress_ne⟩
    obtain rfl := Option.some.inj same
    exact ⟨walkable, pausing, borne⟩

/-- Going on at a node of the dialog does not stall. -/
theorem goTo_unstalled (conversation : Conversation) (walkable : session.dialog.Walkable)
    (pausing : session.dialog.Pausing) {node : NodeId} (inside : node < session.dialog.graph.size)
    (memory : Memory) : (goTo conversation session node memory).value.Unstalled :=
  settle_unstalled conversation walkable pausing
    (Dialog.run_supported walkable pausing inside conversation.manner session.character memory)

/-- Keeping a supported wait does not stall. -/
theorem keep_unstalled (conversation : Conversation) (walkable : session.dialog.Walkable)
    (pausing : session.dialog.Pausing) (wait : Wait)
    (borne : wait.Supported session.dialog session.node) (flags : Flags) (calls : List Call) :
    (keep conversation session wait flags calls).Unstalled := by
  refine ⟨fun after same => ?_, borne.progress_ne⟩
  obtain rfl := Option.some.inj same
  exact ⟨walkable, pausing, borne⟩

/-- Choosing one of the options that are shown does not stall. -/
theorem choose_unstalled (conversation : Conversation) (walkable : session.dialog.Walkable)
    (pausing : session.dialog.Pausing) {options : List DialogOption}
    (known : session.dialog.graph.kind? session.node = some (.branch .player options))
    {index : Nat} (within : index < options.length) (flags : Flags) :
    (choose conversation session index flags).value.Unstalled := by
  have followed : (Port.option index, Lint.Severity.error) ∈ Lint.optionPorts options.length :=
    List.mem_map.2 ⟨index, List.mem_range.2 within, rfl⟩
  obtain ⟨next, connected⟩ := walkable.wired _ _ known _ followed
  dsimp only at connected
  unfold choose
  rw [connected]
  obtain ⟨supported, progress⟩ :=
    goTo_unstalled conversation walkable pausing (Graph.connected?_lt connected) _
  exact ⟨supported, progress⟩

/-- The highlight stays among the options. -/
theorem moveHighlight_lt (sounds : SoundCues) (input : Input) {count selected : Nat}
    (within : selected < count) : (moveHighlight sounds input count selected).1 < count := by
  unfold moveHighlight
  split
  · show selected - 1 < count
    omega
  · split
    · show min (selected + 1) (count - 1) < count
      omega
    · exact within

/-- A running dialog that is supported does not stall in one tick. -/
theorem resumeSession_unstalled (conversation : Conversation) (supported : session.Supported)
    (tick : Tick) (animating : Bool) (flags : Flags) :
    (resumeSession conversation session tick animating flags).value.Unstalled := by
  obtain ⟨walkable, pausing, borne⟩ := supported
  unfold resumeSession
  dsimp only
  cases waiting : session.wait with
  | reveal remaining budget speaker =>
    rw [waiting] at borne
    obtain ⟨line, known⟩ := borne
    exact keep_unstalled conversation walkable pausing _
      (Dialog.revealLine_supported known _ _ _ _) flags _
  | confirm =>
    rw [waiting] at borne
    obtain ⟨line, known⟩ := borne
    dsimp only
    split
    · obtain ⟨next, connected⟩ := walkable.wired _ _ known _ List.mem_cons_self
      dsimp only at connected
      rw [connected]
      obtain ⟨supported, progress⟩ := goTo_unstalled conversation walkable pausing
        (Graph.connected?_lt connected) (conversation.memory flags)
      exact ⟨supported, progress⟩
    · exact keep_unstalled conversation walkable pausing .confirm ⟨line, known⟩ flags _
  | choose count selected =>
    rw [waiting] at borne
    obtain ⟨options, known, rfl, within⟩ := borne
    have moved := moveHighlight_lt conversation.manner.sounds tick.input within
    dsimp only
    split
    · obtain ⟨supported, progress⟩ :=
        choose_unstalled conversation walkable pausing known moved flags
      exact ⟨supported, progress⟩
    · exact keep_unstalled conversation walkable pausing (.choose _ _) ⟨options, known, rfl, moved⟩
        flags _
  | closing remaining =>
    dsimp only
    split
    · exact finish_unstalled ..
    · exact keep_unstalled conversation walkable pausing (.closing _) trivial flags _
  | stalled reason =>
    rw [waiting] at borne
    exact borne.elim

/-- A conversation that cannot stall does not stall in one tick. -/
theorem resume_unstalled {conversation : Conversation} (supported : conversation.Supported)
    (tick : Tick) (animating : Bool) (flags : Flags) :
    (conversation.resume tick animating flags).value.Unstalled := by
  unfold resume
  cases running : conversation.session with
  | some session =>
    exact resumeSession_unstalled conversation (supported session running) tick animating flags
  | none =>
    dsimp only
    split <;> exact ⟨supported_of_idle rfl, nofun⟩

/-- A conversation that cannot stall never does. -/
theorem progresses_unstalled {conversation : Conversation} (supported : conversation.Supported)
    (moments : List Moment) : Progress.stalled ∉ conversation.progresses moments := by
  induction moments generalizing conversation with
  | nil => exact List.not_mem_nil
  | cons moment rest ih =>
    obtain ⟨after, progress⟩ :=
      resume_unstalled supported moment.tick moment.animating moment.flags
    intro stalled
    obtain now | later := List.mem_cons.1 stalled
    · exact progress now.symm
    · exact ih after later

/-- A dialog that can be walked, and in which every cycle pauses, starts and does not stall. -/
theorem start_unstalled {conversation : Conversation} {dialog : DialogGraph}
    (walkable : dialog.Walkable) (pausing : dialog.Pausing)
    (idle : conversation.isRunning = false) (music : Option String) (flags : Flags) :
    ∃ turn, conversation.start dialog music flags = .ok turn ∧ turn.value.Unstalled := by
  have silent : conversation.session = none := by
    unfold isRunning at idle
    exact Option.not_isSome_iff_eq_none.1 (by rw [idle]; exact Bool.false_ne_true)
  obtain ⟨node, begins⟩ := walkable.startable
  have inside : node < dialog.graph.size := Graph.start_lt begins
  unfold start
  rw [silent, begins]
  refine ⟨_, rfl, ?_⟩
  let session : Session :=
    ⟨dialog, node, .confirm, dialog.firstCharacter?, dialog.music.map fun _ => music⟩
  have opened : (goTo { conversation with idleReported := false } session node
      (conversation.memory flags)).value.Unstalled :=
    goTo_unstalled _ walkable pausing inside _
  exact ⟨opened.supported, opened.progress⟩

end Conversation

/-- A dialog of a bundle whose report passes, and in which every cycle over connected ports has a
line or a choice of the player, starts in every conversation that is idle, and neither its start
nor anything that follows ever stalls. -/
theorem dialog_never_stalls {bundle : Bundle} {key : String} {dialog : DialogGraph}
    (passes : (Lint.report .standard bundle).Passes)
    (stored : (key, dialog) ∈ bundle.dialogs.toList) (pausing : dialog.Pausing)
    {conversation : Conversation} (idle : conversation.isRunning = false)
    (music : Option String) (flags : Flags) :
    ∃ turn, conversation.start dialog music flags = .ok turn ∧
      turn.value.progress ≠ .stalled ∧
      ∀ moments, Progress.stalled ∉ turn.value.conversation.progresses moments := by
  have walkable := Lint.walkable_of_passes passes stored
  obtain ⟨turn, started, supported, progress⟩ :=
    Conversation.start_unstalled walkable pausing idle music flags
  exact ⟨turn, started, progress, Conversation.progresses_unstalled supported⟩

/-- The report on a bundle of one greeting passes. -/
theorem Lint.greeting_passes :
    (Lint.report .standard (Bundle.empty.addDialog .greeting)).Passes := by
  have none : (Lint.report .standard (Bundle.empty.addDialog .greeting)).issues = [] := by decide
  intro issue member
  rw [none] at member
  cases member

/-- A greeting starts and never stalls. -/
theorem dialog_never_stalls_greeting :
    ∃ turn, (Conversation.ofConfig .standard).start .greeting none ∅ = .ok turn ∧
      turn.value.progress ≠ .stalled ∧
      ∀ moments, Progress.stalled ∉ turn.value.conversation.progresses moments :=
  dialog_never_stalls Lint.greeting_passes List.mem_cons_self DialogGraph.greeting_pausing rfl none
    ∅

end Narrative
