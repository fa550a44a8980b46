import Narrative.Proofs.Conversation.Route

/-!
# One press, one step

A press that the player confirms goes on from the node where the dialog waits, if all that this node
has to show is there: a line that is whole, or the options of a choice. The walk that follows comes
to a halt at the next line or choice, whatever it passes before. So one press leaves one line or
choice at most, and that one was shown before; without a press that counts, the dialog stays.
-/

namespace Narrative

open Dialog (Manner Memory Wait applyEffects)

/-- A turn that goes from a node by some legs: they are a path to the node where the dialog stands
afterwards, which is an end if the dialog is over, and what the story remembers follows their
effects. -/
structure Turn.Goes (tracing : Tracing) (dialog : DialogGraph) (root : NodeId) (memory : Memory)
    (legs : List Leg) (last : NodeId) (turn : Turn) : Prop where
  /-- The legs are a path. -/
  path : dialog.Path tracing root memory legs last
  /-- The running dialog stands where the path leads. -/
  stands : ∀ session, turn.conversation.session = some session →
    session.dialog = dialog ∧ session.node = last
  /-- A dialog that is over stands on an end. -/
  ended : turn.conversation.session = none → dialog.graph.kind? last = some .finish
  /-- What the story remembers. -/
  memory : turn.conversation.memory turn.flags = (applyEffects tracing memory
    ((Itinerary.ofWait legs last (turn.conversation.session.map Session.wait)).effects
      dialog)).value.1

/-- A turn in which a running dialog stays: the flags and what was asked for are as before, and the
dialog stands where it stood, unless its end is closed. -/
structure Turn.Stays (conversation : Conversation) (session : Session) (flags : Flags)
    (turn : Turn) : Prop where
  /-- The flags are left alone. -/
  flags : turn.flags = flags
  /-- What was asked for is left alone. -/
  requested : turn.conversation.requested = conversation.requested
  /-- The dialog stands where it stood, or was about to close and is over. -/
  stands : (∃ after, turn.conversation.session = some after ∧
      after.dialog = session.dialog ∧ after.node = session.node) ∨
    turn.conversation.session = none ∧ turn.progress = .done ∧
      session.dialog.graph.kind? session.node = some .finish ∧
      ∃ remaining, session.wait = .closing remaining

/-- A running dialog that asks the player to go on: a line is shown as a whole, or the options of a
choice are. -/
def Session.Asks (session : Session) : Prop :=
  (session.wait = .confirm ∧
    ∃ line, session.dialog.graph.kind? session.node = some (.line line)) ∨
  ∃ options selected, session.wait = .choose options.length selected ∧
    session.dialog.graph.kind? session.node = some (.branch .player options)

namespace Turn

variable {conversation : Conversation} {session : Session} {flags : Flags} {tracing : Tracing}
  {dialog : DialogGraph} {root last : NodeId} {memory : Memory} {legs : List Leg}
  {earlier : List Call} {turn : Turn}

/-- A turn that recounts its way goes it. -/
theorem Recounts.goes (recounts : turn.Recounts tracing dialog root memory legs earlier last) :
    turn.Goes tracing dialog root memory legs last := by
  obtain ⟨stands, recounts⟩ := recounts
  refine ⟨recounts.path, stands, fun ended => ?_, recounts.memory⟩
  have warrant := recounts.warrant
  unfold Dialog.Stop.Warranted at warrant
  rw [ended] at warrant
  exact warrant

/-- Calls before those that come before a turn. -/
theorem after_after (turn : Turn) (first second : List Call) :
    (turn.after second).after first = turn.after (first ++ second) := by
  unfold Turn.after
  rw [List.append_assoc]

/-- The calls of a turn do not matter to where it goes. -/
theorem Goes.after (goes : turn.Goes tracing dialog root memory legs last) (calls : List Call) :
    (turn.after calls).Goes tracing dialog root memory legs last :=
  ⟨goes.path, goes.stands, goes.ended, goes.memory⟩

/-- A turn goes where it goes with other calls before its own. -/
theorem Goes.of_after {calls : List Call}
    (goes : (turn.after calls).Goes tracing dialog root memory legs last) :
    turn.Goes tracing dialog root memory legs last :=
  ⟨goes.path, goes.stands, goes.ended, goes.memory⟩

/-- One more node is left before all others. -/
theorem Goes.cons {leg : Leg} {next : NodeId} (opens : dialog.Opens memory.flags leg)
    (connected : dialog.graph.connected? leg.node leg.port = some next)
    (goes : turn.Goes tracing dialog next
      (applyEffects tracing memory (dialog.legEffects leg)).value.1 legs last) :
    turn.Goes tracing dialog leg.node memory (leg :: legs) last := by
  refine ⟨.cons opens connected goes.path, goes.stands, goes.ended, ?_⟩
  rw [Itinerary.effects_cons, Dialog.memory_applyEffects_append]
  exact goes.memory

/-- The calls of a turn do not matter to staying. -/
theorem Stays.after (stays : turn.Stays conversation session flags) (calls : List Call) :
    (turn.after calls).Stays conversation session flags :=
  ⟨stays.flags, stays.requested, stays.stands⟩

end Turn

/-- A node of a kind that is neither a line nor a choice of the player is passed. -/
theorem DialogGraph.not_pausesAt {dialog : DialogGraph} {id : NodeId} {kind : DialogNode}
    (known : dialog.graph.kind? id = some kind) (mute : ∀ line, kind ≠ .line line)
    (decided : ∀ options, kind ≠ .branch .player options) : ¬dialog.PausesAt id := by
  rintro (⟨line, same⟩ | ⟨options, same⟩)
  · exact mute line (Option.some.inj (known.symm.trans same))
  · exact decided options (Option.some.inj (known.symm.trans same))

/-- A walk leaves no line and no choice of the player. -/
theorem Dialog.walkLegs_passing (manner : Manner) (dialog : DialogGraph) (bound : Nat)
    (node : NodeId) (memory : Memory) :
    ∀ leg ∈ walkLegs manner dialog bound node memory, ¬dialog.PausesAt leg.node := by
  induction bound generalizing node memory with
  | zero => exact List.forall_mem_nil _
  | succ bound ih =>
    have onward (passing : ¬dialog.PausesAt node) (option : Option Nat) (next : NodeId)
        (after : Memory) :
        ∀ leg ∈ (⟨node, option⟩ : Leg) :: walkLegs manner dialog bound next after,
          ¬dialog.PausesAt leg.node :=
      List.forall_mem_cons.2 ⟨passing, ih next after⟩
    unfold walkLegs
    cases known : dialog.graph.kind? node with
    | none => exact List.forall_mem_nil _
    | some kind =>
      cases kind with
      | start =>
        dsimp only
        cases dialog.graph.connected? node Port.exit with
        | none => exact List.forall_mem_nil _
        | some next => exact onward (DialogGraph.not_pausesAt known (by simp) (by simp)) none next _
      | line line => exact List.forall_mem_nil _
      | branch decider options =>
        cases decider with
        | player => exact List.forall_mem_nil _
        | automatic =>
          dsimp only
          cases (Branch.resolve memory.flags options).value with
          | none => exact List.forall_mem_nil _
          | some index =>
            dsimp only
            cases dialog.graph.connected? node (Port.option index) with
            | none => exact List.forall_mem_nil _
            | some next =>
              exact onward (DialogGraph.not_pausesAt known (by simp) (by simp)) (some index) next _
      | event effects =>
        dsimp only
        cases dialog.graph.connected? node Port.exit with
        | none => exact List.forall_mem_nil _
        | some next => exact onward (DialogGraph.not_pausesAt known (by simp) (by simp)) none next _
      | finish => exact List.forall_mem_nil _

namespace Conversation

variable {conversation : Conversation} {session : Session} {flags : Flags} {manner : Manner}

/-- Going on at a node goes where the walk leads. -/
theorem goTo_goes (conversation : Conversation) (session : Session) (next : NodeId)
    (memory : Memory) : ∃ last, (goTo conversation session next memory).value.Goes
      conversation.manner.tracing session.dialog next memory
      (goToLegs conversation session next memory) last := by
  let stop := (Dialog.run conversation.manner session.dialog next session.character memory).value
  have walked : (stop.after []).Recounts conversation.manner.tracing session.dialog next memory
      (goToLegs conversation session next memory) := Dialog.walk_recounts ..
  exact ⟨stop.node, (settle_recounts walked).goes⟩

/-- A start goes from the start of the dialog. -/
theorem start_goes {dialog : DialogGraph} {music : Option String} {turn : Logged Turn}
    (started : conversation.start dialog music flags = .ok turn) :
    ∃ root last, dialog.graph.start = .ok root ∧
      turn.value.Goes conversation.manner.tracing dialog root (conversation.memory flags)
        (conversation.startLegs dialog flags) last := by
  obtain ⟨root, last, begins, recounts⟩ := start_recounts started
  exact ⟨root, last, begins, recounts.goes⟩

/-- Keeping waiting is staying. -/
theorem keep_stays (conversation : Conversation) (session : Session) (wait : Wait) (flags : Flags)
    (calls : List Call) :
    (keep conversation session wait flags calls).Stays conversation session flags :=
  ⟨rfl, rfl, .inl ⟨_, rfl, rfl, rfl⟩⟩

/-- Staying at a node for good is staying. -/
theorem stall_stays (conversation : Conversation) (session : Session) (flags : Flags)
    (reason : Dialog.Stall) :
    (stall conversation session flags reason).value.Stays conversation session flags :=
  ⟨rfl, rfl, .inl ⟨_, rfl, rfl, rfl⟩⟩

/-- A turn of a running dialog that stays and leaves no node, or that leaves first the node where
the dialog asks the player to go on, and after it only nodes at which it need not wait. -/
inductive Steps (conversation : Conversation) (session : Session) (flags : Flags) :
    List Leg → Turn → Prop where
  /-- The dialog stays. -/
  | stay {turn : Turn} (stays : turn.Stays conversation session flags) :
      Steps conversation session flags [] turn
  /-- The dialog goes on. -/
  | go {turn : Turn} {leg : Leg} {rest : List Leg} {last : NodeId} (asks : session.Asks)
      (here : leg.node = session.node)
      (goes : turn.Goes conversation.manner.tracing session.dialog session.node
        (conversation.memory flags) (leg :: rest) last)
      (passing : ∀ other ∈ rest, ¬session.dialog.PausesAt other.node) :
      Steps conversation session flags (leg :: rest) turn

/-- The calls of a turn do not matter to its step. -/
theorem Steps.after {legs : List Leg} {turn : Turn}
    (steps : Steps conversation session flags legs turn) (calls : List Call) :
    Steps conversation session flags legs (turn.after calls) := by
  cases steps with
  | stay stays => exact .stay (stays.after calls)
  | go asks here goes passing => exact .go asks here (goes.after calls) passing

/-- Going on over a port of the node where the dialog waits is one step. -/
theorem goTo_steps (conversation : Conversation) (asks : session.Asks) {option : Option Nat}
    (opens : session.dialog.Opens flags ⟨session.node, option⟩) {next : NodeId}
    (connected : session.dialog.graph.connected? session.node
      (option.elim Port.exit Port.option) = some next) {effects : List Effect}
    (along : session.dialog.legEffects ⟨session.node, option⟩ = effects) :
    let memory :=
      (applyEffects conversation.manner.tracing (conversation.memory flags) effects).value.1
    Steps conversation session flags
      (⟨session.node, option⟩ :: goToLegs conversation session next memory)
      (goTo conversation session next memory).value := by
  subst along
  obtain ⟨last, goes⟩ := goTo_goes conversation session next
    (applyEffects conversation.manner.tracing (conversation.memory flags)
      (session.dialog.legEffects ⟨session.node, option⟩)).value.1
  have gone := Turn.Goes.cons opens connected goes
  exact .go asks rfl gone (Dialog.walkLegs_passing _ _ _ _ _)

/-- The choice of an option is one step. -/
theorem choose_steps (conversation : Conversation) (asks : session.Asks)
    {options : List DialogOption}
    (known : session.dialog.graph.kind? session.node = some (.branch .player options))
    {index : Nat} (within : index < options.length) (flags : Flags) :
    Steps conversation session flags (chooseLegs conversation session index flags)
      (choose conversation session index flags).value := by
  unfold choose chooseLegs
  cases connected : session.dialog.graph.connected? session.node (Port.option index) with
  | none => exact .stay (stall_stays ..)
  | some next =>
    rw [known]
    dsimp only
    rw [Logged.value_bind, Logged.value_bind]
    have along := DialogGraph.legEffects_option known index
    have opens := DialogGraph.opens_choice known within flags
    exact (goTo_steps conversation asks opens connected along).after _

/-- Going on with a running dialog for one tick is one step. -/
theorem resumeSession_steps (conversation : Conversation) (integral : session.Integral)
    (tick : Tick) (animating : Bool) (flags : Flags) :
    Steps conversation session flags (sessionLegs conversation session tick animating flags)
      (resumeSession conversation session tick animating flags).value := by
  obtain ⟨inside, borne⟩ := integral
  unfold resumeSession sessionLegs
  dsimp only
  cases waiting : session.wait with
  | reveal remaining budget speaker =>
    dsimp only
    rw [ite_self]
    exact .stay (keep_stays ..)
  | confirm =>
    rw [waiting] at borne
    obtain ⟨line, known⟩ := borne
    have asks : session.Asks := .inl ⟨waiting, line, known⟩
    dsimp only
    split
    · cases connected : session.dialog.graph.connected? session.node Port.exit with
      | none => exact .stay ((stall_stays ..).after _)
      | some next =>
        have along : session.dialog.legEffects ⟨session.node, none⟩ = [] :=
          (DialogGraph.legEffects_exit session.node).trans (DialogGraph.effectsAt_of_kind known)
        have opens := DialogGraph.opens_line known flags
        exact (goTo_steps conversation asks opens connected along).after _
    · exact .stay (keep_stays ..)
  | choose count selected =>
    rw [waiting] at borne
    obtain ⟨options, known, rfl, within⟩ := borne
    have asks : session.Asks := .inr ⟨options, selected, waiting, known⟩
    dsimp only
    split
    · exact (choose_steps conversation asks known (moveHighlight_lt _ _ within) flags).after _
    · exact .stay (keep_stays ..)
  | closing remaining =>
    rw [waiting] at borne
    dsimp only
    rw [ite_self]
    split
    · exact .stay ⟨rfl, rfl, .inr ⟨rfl, rfl, borne.1, remaining, waiting⟩⟩
    · exact .stay (keep_stays ..)
  | stalled reason =>
    dsimp only
    rw [ite_self]
    exact .stay (keep_stays ..)

/-- Without a press that counts, and while a line is being revealed, no node is left. -/
theorem sessionLegs_eq_nil {tick : Tick} {animating : Bool}
    (held : tick.input.confirm = false ∨ animating = true ∨ session.wait.hidden ≠ []) :
    sessionLegs conversation session tick animating flags = [] := by
  unfold sessionLegs
  obtain unpressed | moving | unfinished := held
  · rw [unpressed]
    rfl
  · rw [moving, Bool.not_true, Bool.and_false]
    rfl
  · cases waiting : session.wait with
    | reveal remaining budget speaker => exact ite_self _
    | _ =>
      rw [waiting] at unfinished
      exact absurd rfl unfinished

/-- Going on for one tick is one step of the running dialog. -/
theorem resume_steps (integral : conversation.Integral manner)
    (running : conversation.session = some session) (tick : Tick) (animating : Bool)
    (flags : Flags) :
    Steps conversation session flags (conversation.resumeLegs tick animating flags)
      (conversation.resume tick animating flags).value := by
  unfold resumeLegs resume
  rw [running]
  exact resumeSession_steps conversation (integral.session session running) tick animating flags

/-- Whatever is asked of a conversation, a tick without a press, with an illustration that moves, or
with a line that is not shown as a whole leaves the running dialog where it stands, and the flags
and what was asked for as they are; at most, its end is closed. And whatever the tick, the dialog
stays in this way or goes on along a path: it leaves first the node where it asks the player to go
on, because it shows a line as a whole or the options of a choice, and after that no line and no
choice of the player. -/
theorem one_press_one_step (config : Config) (commands : List Command) :
    let conversation := (ofConfig config).obeyAll commands
    ∀ session, conversation.session = some session → ∀ tick animating flags,
      let legs := conversation.resumeLegs tick animating flags
      let turn := (conversation.resume tick animating flags).value
      (tick.input.confirm = false ∨ animating = true ∨ session.wait.hidden ≠ [] →
        legs = [] ∧ turn.Stays conversation session flags) ∧
      (legs = [] ∧ turn.Stays conversation session flags ∨
        ∃ leg rest last, legs = leg :: rest ∧ leg.node = session.node ∧ session.Asks ∧
          turn.Goes config.tracing session.dialog session.node (conversation.memory flags) legs
            last ∧
          ∀ other ∈ rest, ¬session.dialog.PausesAt other.node) := by
  intro conversation session running tick animating flags legs turn
  have built : (ofConfig config).Integral (ofConfig config).manner := integral_of_idle rfl rfl
  have integral : conversation.Integral (ofConfig config).manner := built.obeyAll commands
  have steps : Steps conversation session flags legs turn := resume_steps integral running ..
  have left (held : tick.input.confirm = false ∨ animating = true ∨ session.wait.hidden ≠ []) :
      legs = [] := by
    unfold legs resumeLegs
    rw [running]
    exact sessionLegs_eq_nil held
  clear_value legs turn
  refine ⟨fun held => ?_, ?_⟩
  · rw [left held] at steps ⊢
    cases steps with
    | stay stays => exact ⟨rfl, stays⟩
  · cases steps with
    | stay stays => exact .inl ⟨rfl, stays⟩
    | go asks here goes passing =>
      rw [integral.manner] at goes
      exact .inr ⟨_, _, _, rfl, here, asks, goes, passing⟩

/-- A press leaves the line of a greeting once it is whole, and the greeting comes to its end. -/
theorem one_press_one_step_greeting :
    let conversation := (ofConfig .standard).obeyAll
      [.start .greeting none ∅, .resume (.wait (.ofSeconds 1)) false ∅]
    let press : Tick := .press { Input.none with confirm := true }
    ∃ session, conversation.session = some session ∧ session.Asks ∧
      conversation.resumeLegs press false ∅ = [⟨1, none⟩] ∧
      ∃ last, (conversation.resume press false ∅).value.Goes Config.standard.tracing session.dialog
        session.node (conversation.memory ∅) [⟨1, none⟩] last := by
  intro conversation press
  obtain ⟨session, running⟩ : ∃ session, conversation.session = some session := ⟨_, rfl⟩
  have left : conversation.resumeLegs press false ∅ = [⟨1, none⟩] := by decide
  obtain ⟨-, ⟨none, -⟩ | ⟨leg, rest, last, split, -, asks, goes, -⟩⟩ := one_press_one_step .standard
    [.start .greeting none ∅, .resume (.wait (.ofSeconds 1)) false ∅] session running press false ∅
  · cases left.symm.trans none
  · exact ⟨session, running, asks, left, last, left ▸ goes⟩

end Conversation

end Narrative
