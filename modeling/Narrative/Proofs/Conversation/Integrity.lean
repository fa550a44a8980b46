import Narrative.Proofs.Conversation.Effects
import Narrative.Proofs.Conversation.Unstalled

/-!
# The integrity of a conversation

A running dialog stands on a node of its graph, and what it waits for is borne out by that node: a
line is revealed or confirmed at a line, a choice is made at a branch of the player among its
options, and only an end is about to close. Nothing else can be reached, whatever is asked of the
conversation and in whatever order. A dialog that has stalled stays as it is until it is broken off,
and one that is over leaves nothing behind but what it asked for.
-/

namespace Narrative

open Dialog (Manner Memory Stop Wait)

/-- A wait that the node of the dialog bears out. The characters to come are the end of the text of
the line, and there are some; one of the options is highlighted; there is time to wait for. A dialog
stalls for any reason but that it stands outside its graph. -/
def Dialog.Wait.BorneOut (dialog : DialogGraph) (node : NodeId) : Wait → Prop
  | .reveal remaining _ speaker =>
    ∃ line shown, dialog.graph.kind? node = some (.line line) ∧ speaker = line.speaker ∧
      line.text.toList = shown ++ remaining ∧ remaining ≠ []
  | .confirm => ∃ line, dialog.graph.kind? node = some (.line line)
  | .choose count selected =>
    ∃ options, dialog.graph.kind? node = some (.branch .player options) ∧
      options.length = count ∧ selected < count
  | .closing remaining => dialog.graph.kind? node = some .finish ∧ remaining.isZero = false
  | .stalled reason => reason ≠ .outside

/-- A running dialog whose node is one of its graph and bears out what it waits for. -/
structure Session.Integral (session : Session) : Prop where
  /-- The node is one of the graph. -/
  inside : session.node < session.dialog.graph.size
  /-- The node bears out the wait. -/
  wait : session.wait.BorneOut session.dialog session.node

/-- A conversation of some manner whose running dialog, if there is one, is integral. -/
structure Conversation.Integral (manner : Manner) (conversation : Conversation) : Prop where
  /-- The manner. -/
  manner : conversation.manner = manner
  /-- The running dialog. -/
  session : ∀ session, conversation.session = some session → session.Integral

/-- A conversation without a dialog is integral. -/
theorem Conversation.integral_of_idle {manner : Manner} {conversation : Conversation}
    (same : conversation.manner = manner) (idle : conversation.session = none) :
    conversation.Integral manner := by
  refine ⟨same, fun session found => ?_⟩
  rw [idle] at found
  cases found

/-- A conversation as it is built, but for a request that nobody took. -/
def Conversation.afresh (manner : Manner) (requested : Option StateKind) : Conversation :=
  ⟨manner, none, requested, false⟩

/-- A turn that leaves an integral conversation, and nothing of a dialog that is over. -/
structure Turn.Integral (manner : Manner) (turn : Turn) : Prop where
  /-- The conversation after it. -/
  conversation : turn.conversation.Integral manner
  /-- Only the request outlives the dialog. -/
  aftermath : turn.progress = .done →
    turn.conversation = Conversation.afresh manner turn.conversation.requested

/-- The calls of a turn do not matter to its integrity. -/
theorem Turn.Integral.after {manner : Manner} {turn : Turn} (integral : turn.Integral manner)
    (calls : List Call) : (turn.after calls).Integral manner :=
  ⟨integral.conversation, integral.aftermath⟩

namespace Dialog

/-- A line that goes on being revealed is borne out by its node. -/
theorem revealLine_borneOut {dialog : DialogGraph} {node : NodeId} {line : Line}
    (known : dialog.graph.kind? node = some (.line line)) (manner : Manner)
    {shown remaining : List Char} (text : line.text.toList = shown ++ remaining)
    (budget : Duration) :
    (revealLine manner remaining budget line.speaker).1.BorneOut dialog node := by
  have whole := reveal_append manner.pace.interval remaining budget
  unfold revealLine
  dsimp only
  split
  · exact ⟨line, known⟩
  · next unfinished =>
    refine ⟨line, shown ++ (reveal manner.pace.interval remaining budget).1, known, rfl, ?_, ?_⟩
    · rw [List.append_assoc, whole, text]
    · exact fun none => unfinished (List.isEmpty_iff.2 none)

/-- A walk comes to a stop at a node of the graph, which bears out the wait. -/
structure Stop.Integral (dialog : DialogGraph) (stop : Stop) : Prop where
  /-- The node is one of the graph. -/
  inside : stop.node < dialog.graph.size
  /-- The node bears out the wait, if there is one. -/
  wait : ∀ wait, stop.wait = some wait → wait.BorneOut dialog stop.node

/-- A walk that starts inside the graph stays inside, and its stop is borne out. -/
theorem walk_integral (manner : Manner) (dialog : DialogGraph) (bound : Nat) {node : NodeId}
    (inside : node < dialog.graph.size) (character : Option Speaker) (memory : Memory) :
    (walk manner dialog bound node character memory).value.Integral dialog := by
  -- Wherever a walk waits, it is inside; so what is left is the wait.
  have stops {node : NodeId} (inside : node < dialog.graph.size) {character : Option Speaker}
      (wait : Wait) {memory : Memory} {calls : List Call} (borne : wait.BorneOut dialog node) :
      Stop.Integral dialog ⟨node, character, some wait, memory, calls⟩ := by
    refine ⟨inside, fun other same => ?_⟩
    obtain rfl := Option.some.inj same
    exact borne
  have stalls {node : NodeId} (inside : node < dialog.graph.size) {character : Option Speaker}
      (reason : Stall) {memory : Memory} {calls : List Call} (elsewhere : reason ≠ .outside) :
      Stop.Integral dialog ⟨node, character, some (.stalled reason), memory, calls⟩ :=
    stops inside (.stalled reason) elsewhere
  induction bound generalizing node character memory with
  | zero => exact stalls inside .endless (by decide)
  | succ bound ih =>
    obtain ⟨kind, known⟩ := Graph.kind?_of_lt inside
    unfold walk
    rw [known]
    dsimp only
    rw [Logged.value_bind]
    cases kind with
    | start =>
      dsimp only
      split
      · exact stalls inside .startUnwired (by decide)
      · next connected => exact ih (Graph.connected?_lt connected) _ _
    | line line =>
      exact stops inside _ (revealLine_borneOut known manner (List.nil_append _).symm _)
    | branch decider options =>
      cases decider with
      | player =>
        dsimp only
        split
        · exact stalls inside .nothingToChoose (by decide)
        · next some =>
          refine stops inside (.choose options.length 0) ⟨options, known, rfl, ?_⟩
          exact List.length_pos_iff.2 fun none => some (List.isEmpty_iff.2 none)
      | automatic =>
        dsimp only
        rw [Logged.value_bind]
        split
        · exact stalls inside .nothingOpen (by decide)
        · split
          · exact stalls inside .optionUnwired (by decide)
          · next connected =>
            obtain ⟨inside, borne⟩ := ih (Graph.connected?_lt connected) character
              (applyEffects manner.tracing memory _).value.1
            exact ⟨inside, borne⟩
    | event effects =>
      dsimp only
      rw [Logged.value_bind]
      split
      · exact stalls inside .eventUnwired (by decide)
      · next connected =>
        obtain ⟨inside, borne⟩ := ih (Graph.connected?_lt connected) character
          (applyEffects manner.tracing memory effects).value.1
        exact ⟨inside, borne⟩
    | finish =>
      dsimp only
      split
      · exact ⟨inside, fun _ found => (by cases found)⟩
      · next waits =>
        exact stops inside (.closing manner.pace.delay)
          ⟨known, Bool.not_eq_true _ ▸ waits⟩

end Dialog

namespace Conversation

variable {conversation : Conversation} {session : Session} {manner : Manner}

/-- A dialog that is over leaves nothing but what it asked for. -/
theorem finish_integral (conversation : Conversation) (same : conversation.manner = manner)
    (session : Session) (flags : Flags) :
    (finish conversation session flags).value.Integral manner := by
  subst same
  exact ⟨integral_of_idle rfl rfl, fun _ => rfl⟩

/-- Where an integral walk came to is taken over. -/
theorem settle_integral (same : conversation.manner = manner) {stop : Stop}
    (integral : stop.Integral session.dialog) :
    (settle conversation session stop).value.Integral manner := by
  unfold settle
  split
  · exact (finish_integral { conversation with requested := stop.memory.requested } same session
      stop.memory.flags).after _
  · next wait waiting =>
    refine ⟨⟨same, fun after found => ?_⟩, fun done => absurd done ?_⟩
    · obtain rfl := Option.some.inj found
      exact ⟨integral.inside, integral.wait wait waiting⟩
    · cases wait <;> exact nofun

/-- Going on at a node of the dialog. -/
theorem goTo_integral (conversation : Conversation) (same : conversation.manner = manner)
    {session : Session} {node : NodeId} (inside : node < session.dialog.graph.size)
    (memory : Memory) : (goTo conversation session node memory).value.Integral manner :=
  settle_integral same (Dialog.walk_integral _ _ _ inside _ _)

/-- Staying at the node for good, which the player has to leave by a port that leads nowhere. -/
theorem stall_integral (same : conversation.manner = manner)
    (inside : session.node < session.dialog.graph.size) (flags : Flags) (port : String) :
    (stall conversation session flags (.portUnwired port)).value.Integral manner := by
  refine settle_integral same ⟨inside, fun wait found => ?_⟩
  obtain rfl := Option.some.inj found
  exact nofun

/-- Keeping waiting, for what the node bears out. -/
theorem keep_integral (same : conversation.manner = manner)
    (inside : session.node < session.dialog.graph.size) (wait : Wait)
    (borne : wait.BorneOut session.dialog session.node) (flags : Flags) (calls : List Call) :
    (keep conversation session wait flags calls).Integral manner := by
  refine ⟨⟨same, fun after found => ?_⟩, fun done => absurd done ?_⟩
  · obtain rfl := Option.some.inj found
    exact ⟨inside, borne⟩
  · cases wait <;> exact nofun

/-- Choosing an option. -/
theorem choose_integral (same : conversation.manner = manner)
    (inside : session.node < session.dialog.graph.size) (index : Nat) (flags : Flags) :
    (choose conversation session index flags).value.Integral manner := by
  unfold choose
  split
  · exact stall_integral same inside flags _
  · next connected =>
    dsimp only
    rw [Logged.value_bind, Logged.value_bind]
    exact (goTo_integral conversation same (Graph.connected?_lt connected) _).after _

/-- Going on with a running dialog for one tick. -/
theorem resumeSession_integral (same : conversation.manner = manner) (integral : session.Integral)
    (tick : Tick) (animating : Bool) (flags : Flags) :
    (resumeSession conversation session tick animating flags).value.Integral manner := by
  obtain ⟨inside, borne⟩ := integral
  unfold resumeSession
  dsimp only
  cases waiting : session.wait with
  | reveal remaining budget speaker =>
    rw [waiting] at borne
    obtain ⟨line, shown, known, rfl, text, -⟩ := borne
    exact keep_integral same inside _
      (Dialog.revealLine_borneOut known conversation.manner text _) flags _
  | confirm =>
    rw [waiting] at borne
    dsimp only
    split
    · split
      · exact (stall_integral same inside flags Port.exit).after _
      · next connected =>
        exact (goTo_integral conversation same (Graph.connected?_lt connected) _).after _
    · exact keep_integral same inside _ borne flags _
  | choose count selected =>
    rw [waiting] at borne
    obtain ⟨options, known, counted, within⟩ := borne
    dsimp only
    split
    · exact (choose_integral same inside _ flags).after _
    · exact keep_integral same inside (.choose count _)
        ⟨options, known, counted, moveHighlight_lt _ _ within⟩ flags _
  | closing remaining =>
    rw [waiting] at borne
    dsimp only
    split
    · exact finish_integral conversation same session flags
    · next waits =>
      exact keep_integral same inside (.closing (remaining.sub tick.elapsed))
        ⟨borne.1, Bool.not_eq_true _ ▸ waits⟩ flags _
  | stalled reason =>
    rw [waiting] at borne
    exact keep_integral same inside _ borne flags _

/-- Going on for one tick. -/
theorem resume_integral (integral : conversation.Integral manner) (tick : Tick)
    (animating : Bool) (flags : Flags) :
    (conversation.resume tick animating flags).value.Integral manner := by
  unfold resume
  cases running : conversation.session with
  | some session =>
    exact resumeSession_integral integral.manner (integral.session session running) tick animating
      flags
  | none =>
    dsimp only
    split <;> exact ⟨integral_of_idle integral.manner rfl, nofun⟩

/-- Starting a dialog. -/
theorem start_integral (integral : conversation.Integral manner) {dialog : DialogGraph}
    {music : Option String} {flags : Flags} {turn : Logged Turn}
    (started : conversation.start dialog music flags = .ok turn) :
    turn.value.Integral manner := by
  obtain ⟨-, node, begins, same⟩ := start_ok started
  let session : Session :=
    ⟨dialog, node, .confirm, dialog.firstCharacter?, dialog.music.map fun _ => music⟩
  have inside : node < session.dialog.graph.size := Graph.start_lt begins
  rw [same]
  exact (goTo_integral { conversation with idleReported := false } integral.manner inside _).after _

/-- Breaking off the running dialog, which leaves nothing but what it asked for. -/
theorem abandon_afresh (integral : conversation.Integral manner)
    (running : conversation.isRunning = true) :
    conversation.abandon.value.1 = afresh manner conversation.requested := by
  obtain ⟨rfl, -⟩ := integral
  obtain ⟨session, found⟩ := Option.isSome_iff_exists.1 running
  unfold abandon
  rw [found]
  rfl

/-- A dialog that has stalled stays as it is in a tick, asks nothing of the host, and leaves the
flags alone. -/
theorem resume_stalled (stalled : conversation.isStalled = true) (tick : Tick) (animating : Bool)
    (flags : Flags) :
    (conversation.resume tick animating flags).value = ⟨conversation, flags, [], .stalled⟩ := by
  obtain ⟨manner, session, requested, reported⟩ := conversation
  cases session with
  | none => cases stalled
  | some session =>
    obtain ⟨dialog, node, wait, character, restore⟩ := session
    cases wait with
    | stalled reason => rfl
    | _ => cases stalled

end Conversation

/-- What can be asked of a conversation. -/
inductive Conversation.Command where
  /-- Start a dialog while some music plays. -/
  | start (dialog : DialogGraph) (music : Option String) (flags : Flags)
  /-- Go on for one tick, while an illustration may be moving. -/
  | resume (tick : Tick) (animating : Bool) (flags : Flags)
  /-- Break off the running dialog. -/
  | abandon
  /-- Forget everything. -/
  | reset
  /-- Take the state that was asked for. -/
  | takeRequested

namespace Conversation

variable {conversation : Conversation} {manner : Manner}

/-- The conversation after a command. -/
def obey (conversation : Conversation) : Command → Conversation
  | .start dialog music flags =>
    match conversation.start dialog music flags with
    | .error _ => conversation
    | .ok turn => turn.value.conversation
  | .resume tick animating flags => (conversation.resume tick animating flags).value.conversation
  | .abandon => conversation.abandon.value.1
  | .reset => conversation.reset
  | .takeRequested => conversation.takeRequested.2

/-- The conversation after commands in order. -/
def obeyAll (conversation : Conversation) : List Command → Conversation
  | [] => conversation
  | command :: rest => (conversation.obey command).obeyAll rest

/-- Every command keeps a conversation integral. -/
theorem Integral.obey (integral : conversation.Integral manner) (command : Command) :
    (conversation.obey command).Integral manner := by
  cases command with
  | start dialog music flags =>
    unfold Conversation.obey
    dsimp only
    split
    · exact integral
    · next started => exact (start_integral integral started).conversation
  | resume tick animating flags =>
    exact (resume_integral integral tick animating flags).conversation
  | abandon =>
    change Integral manner conversation.abandon.value.1
    unfold abandon
    split
    · exact integral
    · exact integral_of_idle integral.manner rfl
  | reset => exact integral_of_idle integral.manner rfl
  | takeRequested => exact ⟨integral.manner, integral.session⟩

/-- Commands in order keep a conversation integral. -/
theorem Integral.obeyAll (integral : conversation.Integral manner) (commands : List Command) :
    (conversation.obeyAll commands).Integral manner := by
  induction commands generalizing conversation with
  | nil => exact integral
  | cons command rest ih => exact ih (integral.obey command)

/-- A dialog that has stalled is left alone by every command but those that end it. -/
theorem session_obey_of_stalled (stalled : conversation.isStalled = true) {command : Command}
    (kept : command ≠ .abandon) (remembered : command ≠ .reset) :
    (conversation.obey command).session = conversation.session := by
  cases command with
  | start dialog music flags =>
    unfold Conversation.obey Conversation.start
    cases found : conversation.session with
    | none =>
      unfold isStalled at stalled
      rw [found] at stalled
      cases stalled
    | some session => exact found
  | resume tick animating flags =>
    exact congrArg (fun turn => turn.conversation.session)
      (resume_stalled stalled tick animating flags)
  | abandon => exact absurd rfl kept
  | reset => exact absurd rfl remembered
  | takeRequested => rfl

/-- Whatever is asked of a conversation, the node of a running dialog is one of its graph and bears
out the wait. A dialog that has stalled stays so until it is broken off or forgotten, and meanwhile
a tick changes nothing and asks nothing of the host. After a turn that ends the dialog, and after a
running dialog was broken off, the conversation is as it was built, but for a request that nobody
took. -/
theorem conversation_integral (config : Config) (commands : List Command) :
    let conversation := (ofConfig config).obeyAll commands
    let asBuilt (requested : Option StateKind) : Conversation :=
      { ofConfig config with requested := requested }
    (∀ session, conversation.session = some session →
        session.node < session.dialog.graph.size ∧
          session.wait.BorneOut session.dialog session.node) ∧
      (conversation.isStalled = true →
        (∀ tick animating flags, (conversation.resume tick animating flags).value =
          ⟨conversation, flags, [], .stalled⟩) ∧
        ∀ command, command ≠ .abandon → command ≠ .reset →
          (conversation.obey command).session = conversation.session) ∧
      (∀ dialog music flags turn, conversation.start dialog music flags = .ok turn →
        turn.value.progress = .done →
          turn.value.conversation = asBuilt turn.value.conversation.requested) ∧
      (∀ tick animating flags,
        let turn := (conversation.resume tick animating flags).value
        turn.progress = .done → turn.conversation = asBuilt turn.conversation.requested) ∧
      (conversation.isRunning = true →
        conversation.abandon.value.1 = asBuilt conversation.requested) := by
  intro conversation asBuilt
  have built : (ofConfig config).Integral (ofConfig config).manner := integral_of_idle rfl rfl
  have integral : conversation.Integral (ofConfig config).manner := built.obeyAll commands
  refine ⟨fun session found => ?_, fun stalled => ⟨resume_stalled stalled, fun command =>
    session_obey_of_stalled stalled⟩, ?_, ?_, ?_⟩
  · obtain ⟨inside, borne⟩ := integral.session session found
    exact ⟨inside, borne⟩
  · exact fun dialog music flags turn started => (start_integral integral started).aftermath
  · exact fun tick animating flags => (resume_integral integral tick animating flags).aftermath
  · exact abandon_afresh integral

end Conversation

end Narrative
