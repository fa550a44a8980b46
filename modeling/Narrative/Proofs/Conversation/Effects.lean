import Narrative.Conversation
import Narrative.Proofs.Dialog.Route

/-!
# The effects of a conversation

In a turn a conversation leaves nodes, and it executes the effects on the way: those of the events
that it comes to and of the options that it leaves by. All that a turn changes about the story is
what these effects change, in order. In particular the state that a conversation asks for after a
turn is the one of the last effect that asked for any, or else the one that it asked for before.
-/

namespace Narrative

open Dialog (Manner Memory Stop Wait applyEffects)

/-- The state that an effect asks for. -/
def Effect.target? : Effect → Option StateKind
  | switchState target => some target
  | _ => none

/-- The states that effects ask for, in order. -/
def Effect.targets (effects : List Effect) : List StateKind := effects.filterMap target?

/-- What is asked for after effects: the last state that they ask for, or what was asked for
before. -/
theorem Dialog.requested_applyEffects (tracing : Tracing) (memory : Memory)
    (effects : List Effect) :
    (applyEffects tracing memory effects).value.1.requested =
      (Effect.targets effects).getLast?.or memory.requested := by
  induction effects generalizing memory with
  | nil => rfl
  | cons effect rest ih =>
    change (applyEffects tracing (applyEffect tracing memory effect).value.1 rest).value.1.requested
      = _
    rw [ih]
    cases effect with
    | switchState target =>
      change _ = (target :: Effect.targets rest).getLast?.or memory.requested
      rw [List.getLast?_cons]
      cases (Effect.targets rest).getLast? <;> rfl
    | _ => rfl

/-- The effects of leaving the node where a dialog waits, and those on the way of the walk that goes
on behind it. -/
def DialogGraph.effectsBeyond (dialog : DialogGraph) : List Leg → List Effect
  | [] => []
  | leg :: others =>
    dialog.leavingEffects leg ++
      (Itinerary.ofWalk dialog (dialog.beyond leg) others).effects dialog

/-- A turn that executes effects: the story after it is what they make of the story before, and
the dialog is over exactly if the turn says so. -/
structure Turn.Executes (conversation : Conversation) (flags : Flags) (effects : List Effect)
    (turn : Turn) : Prop where
  /-- What the effects change is all that changes. -/
  memory : turn.conversation.memory turn.flags =
    (applyEffects conversation.manner.tracing (conversation.memory flags) effects).value.1
  /-- The turn tells the end of the dialog. -/
  ended : turn.conversation.isRunning = false ↔ turn.progress = .done

/-- What a turn executes does not depend on what the host is asked to do. -/
theorem Turn.Executes.after {conversation : Conversation} {flags : Flags} {effects : List Effect}
    {turn : Turn} (executes : turn.Executes conversation flags effects) (calls : List Call) :
    (turn.after calls).Executes conversation flags effects :=
  ⟨executes.memory, executes.ended⟩

/-- What a conversation asks for after a turn: the last state that the effects ask for, or what it
asked for before. -/
theorem Turn.Executes.requested {conversation : Conversation} {flags : Flags}
    {effects : List Effect} {turn : Turn}
    (executes : turn.Executes conversation flags effects) :
    turn.conversation.requested =
      (Effect.targets effects).getLast?.or conversation.requested :=
  (congrArg Memory.requested executes.memory).trans (Dialog.requested_applyEffects ..)

namespace Conversation

/-- The nodes that going on at another node leaves. -/
def goToLegs (conversation : Conversation) (session : Session) (node : NodeId)
    (memory : Memory) : List Leg :=
  Dialog.walkLegs conversation.manner session.dialog (session.dialog.graph.size + 1) node memory

/-- The nodes that the start of a dialog leaves. -/
def startLegs (conversation : Conversation) (dialog : DialogGraph) (flags : Flags) : List Leg :=
  match dialog.graph.start with
  | .error _ => []
  | .ok node =>
    Dialog.walkLegs conversation.manner dialog (dialog.graph.size + 1) node
      (conversation.memory flags)

/-- The nodes that the choice of an option leaves. -/
def chooseLegs (conversation : Conversation) (session : Session) (index : Nat) (flags : Flags) :
    List Leg :=
  match session.dialog.graph.connected? session.node (Port.option index) with
  | none => []
  | some next =>
    let effects :=
      match session.dialog.graph.kind? session.node with
      | some (.branch _ options) => (options[index]?).elim [] DialogOption.effects
      | _ => []
    ⟨session.node, some index⟩ :: goToLegs conversation session next
      (applyEffects conversation.manner.tracing (conversation.memory flags) effects).value.1

/-- The nodes that a running dialog leaves in one tick. -/
def sessionLegs (conversation : Conversation) (session : Session) (tick : Tick)
    (animating : Bool) (flags : Flags) : List Leg :=
  if tick.input.confirm && !animating then
    match session.wait with
    | .confirm =>
      match session.dialog.graph.connected? session.node Port.exit with
      | none => []
      | some next =>
        ⟨session.node, none⟩ :: goToLegs conversation session next (conversation.memory flags)
    | .choose count selected =>
      chooseLegs conversation session
        (moveHighlight conversation.manner.sounds tick.input count selected).1 flags
    | _ => []
  else []

/-- The nodes that are left in one tick. -/
def resumeLegs (conversation : Conversation) (tick : Tick) (animating : Bool) (flags : Flags) :
    List Leg :=
  conversation.session.elim [] fun session =>
    sessionLegs conversation session tick animating flags

/-- The effects of starting a dialog. -/
def startEffects (conversation : Conversation) (dialog : DialogGraph) (flags : Flags) :
    List Effect :=
  match conversation.session, dialog.graph.start with
  | none, .ok root =>
    (Itinerary.ofWalk dialog root (conversation.startLegs dialog flags)).effects dialog
  | _, _ => []

/-- The effects of going on for one tick. -/
def resumeEffects (conversation : Conversation) (tick : Tick) (animating : Bool) (flags : Flags) :
    List Effect :=
  conversation.session.elim [] fun session =>
    session.dialog.effectsBeyond (conversation.resumeLegs tick animating flags)

variable {conversation : Conversation} {session : Session} {flags : Flags}

/-- Without a running dialog no effects are executed. -/
theorem resumeEffects_of_idle (idle : conversation.isRunning ≠ true) (tick : Tick)
    (animating : Bool) (flags : Flags) :
    conversation.resumeEffects tick animating flags = [] := by
  unfold resumeEffects
  unfold isRunning at idle
  rw [Option.not_isSome_iff_eq_none.1 idle]
  rfl

/-- A wait is not the end of a dialog. -/
theorem progress_ne_done (wait : Wait) : wait.progress ≠ .done := by
  cases wait <;> exact nofun

/-- Ending a dialog executes nothing. -/
theorem finish_executes (conversation : Conversation) (session : Session) (flags : Flags) :
    (finish conversation session flags).value.Executes conversation flags [] :=
  ⟨rfl, iff_of_true rfl rfl⟩

/-- Keeping waiting executes nothing. -/
theorem keep_executes (conversation : Conversation) (session : Session) (wait : Wait)
    (flags : Flags) (calls : List Call) :
    (keep conversation session wait flags calls).Executes conversation flags [] :=
  ⟨rfl, iff_of_false nofun (progress_ne_done wait)⟩

/-- Where a walk came to is taken over with its effects. -/
theorem settle_executes (session : Session) {stop : Stop} {effects : List Effect}
    (memory : stop.memory =
      (applyEffects conversation.manner.tracing (conversation.memory flags)
        effects).value.1) :
    (settle conversation session stop).value.Executes conversation flags effects := by
  unfold settle
  split
  · exact ⟨memory, iff_of_true rfl rfl⟩
  · next wait _ => exact ⟨memory, iff_of_false nofun (progress_ne_done wait)⟩

/-- Staying at the node for good executes nothing. -/
theorem stall_executes (conversation : Conversation) (session : Session) (flags : Flags)
    (reason : Dialog.Stall) :
    (stall conversation session flags reason).value.Executes conversation flags [] :=
  settle_executes session rfl

/-- Going on at another node executes what is on the way of the walk, after the effects that led
there. -/
theorem goTo_executes (conversation : Conversation) (flags : Flags) (session : Session)
    (node : NodeId) (effects : List Effect) :
    let memory := (applyEffects conversation.manner.tracing (conversation.memory flags)
      effects).value.1
    (goTo conversation session node memory).value.Executes conversation flags
      (effects ++ (Itinerary.ofWalk session.dialog node
        (goToLegs conversation session node memory)).effects session.dialog) := by
  apply settle_executes session
  rw [Dialog.memory_applyEffects_append]
  exact Dialog.memory_run ..

/-- Going on over a port of the node where a dialog waits. -/
theorem leave_executes (conversation : Conversation) (flags : Flags) (session : Session)
    (option : Option Nat) {next : NodeId}
    (connected : session.dialog.graph.connected? session.node
      (option.elim Port.exit Port.option) = some next)
    {effects : List Effect}
    (along : session.dialog.leavingEffects ⟨session.node, option⟩ = effects) :
    let memory := (applyEffects conversation.manner.tracing (conversation.memory flags)
      effects).value.1
    (goTo conversation session next memory).value.Executes conversation flags
      (session.dialog.effectsBeyond
        (⟨session.node, option⟩ :: goToLegs conversation session next memory)) := by
  intro memory
  have leads : session.dialog.beyond ⟨session.node, option⟩ = next :=
    congrArg (Option.getD · session.node) connected
  rw [DialogGraph.effectsBeyond, along, leads]
  exact goTo_executes conversation flags session next effects

/-- Choosing an option executes its effects and those on the way of the walk from there. -/
theorem choose_executes (conversation : Conversation) (session : Session) (index : Nat)
    (flags : Flags) :
    (choose conversation session index flags).value.Executes conversation flags
      (session.dialog.effectsBeyond (chooseLegs conversation session index flags)) := by
  unfold choose chooseLegs
  cases connected : session.dialog.graph.connected? session.node (Port.option index) with
  | none => exact stall_executes ..
  | some next =>
    dsimp only
    rw [Logged.value_bind, Logged.value_bind]
    have along : session.dialog.leavingEffects ⟨session.node, some index⟩ =
        match session.dialog.graph.kind? session.node with
        | some (.branch _ options) => (options[index]?).elim [] DialogOption.effects
        | _ => [] := by
      unfold DialogGraph.leavingEffects
      dsimp only [Option.elim]
      cases session.dialog.graph.kind? session.node with
      | none => rfl
      | some kind => cases kind <;> rfl
    exact (leave_executes conversation flags session (some index) connected along).after _

/-- Going on with a running dialog for one tick. -/
theorem resumeSession_executes (conversation : Conversation) (session : Session) (tick : Tick)
    (animating : Bool) (flags : Flags) :
    (resumeSession conversation session tick animating flags).value.Executes conversation flags
      (session.dialog.effectsBeyond (sessionLegs conversation session tick animating flags)) := by
  have idle (legs : List Leg) (silent : legs = []) (kept : Wait) (calls : List Call) :
      (keep conversation session kept flags calls).Executes conversation flags
        (session.dialog.effectsBeyond legs) :=
    silent ▸ keep_executes conversation session kept flags calls
  unfold resumeSession sessionLegs
  dsimp only
  cases session.wait with
  | reveal remaining budget speaker => exact idle _ (ite_self _) _ _
  | confirm =>
    dsimp only
    split
    · cases connected : session.dialog.graph.connected? session.node Port.exit with
      | none => exact (stall_executes ..).after _
      | some next =>
        have along : session.dialog.leavingEffects ⟨session.node, none⟩ = [] := rfl
        exact (leave_executes conversation flags session none connected along).after _
    · exact idle _ rfl _ _
  | choose count selected =>
    dsimp only
    split
    · rw [Logged.value_bind]
      exact (choose_executes ..).after _
    · exact idle _ rfl _ _
  | closing remaining =>
    dsimp only
    rw [ite_self]
    split
    · exact finish_executes ..
    · exact idle _ rfl _ _
  | stalled reason => exact idle _ (ite_self _) _ _

/-- Going on with the running dialog, which there is, for one tick. -/
theorem resume_executes (running : conversation.isRunning = true) (tick : Tick)
    (animating : Bool) (flags : Flags) :
    (conversation.resume tick animating flags).value.Executes conversation flags
      (conversation.resumeEffects tick animating flags) := by
  obtain ⟨session, found⟩ := Option.isSome_iff_exists.1 running
  unfold resume resumeEffects resumeLegs
  rw [found]
  exact resumeSession_executes ..

/-- A dialog starts in a conversation without one, at the start of its graph. -/
theorem start_ok {dialog : DialogGraph} {music : Option String} {turn : Logged Turn}
    (started : conversation.start dialog music flags = .ok turn) :
    conversation.session = none ∧ ∃ node, dialog.graph.start = .ok node ∧
      turn.value = (goTo { conversation with idleReported := false }
        ⟨dialog, node, .confirm, dialog.firstCharacter?, dialog.music.map fun _ => music⟩ node
        (conversation.memory flags)).value.after (openingCalls dialog) := by
  unfold start at started
  split at started
  · cases started
  · next idle =>
    split at started
    · cases started
    · next node begins =>
      obtain rfl := Except.ok.inj started
      exact ⟨idle, node, begins, rfl⟩

/-- Starting a dialog. -/
theorem start_executes {dialog : DialogGraph} {music : Option String} {turn : Logged Turn}
    (started : conversation.start dialog music flags = .ok turn) :
    turn.value.Executes conversation flags (conversation.startEffects dialog flags) := by
  obtain ⟨idle, node, begins, same⟩ := start_ok started
  unfold startEffects startLegs
  rw [idle, begins, same]
  let ready : Conversation := { conversation with idleReported := false }
  let session : Session :=
    ⟨dialog, node, .confirm, dialog.firstCharacter?, dialog.music.map fun _ => music⟩
  have executes := goTo_executes ready flags session node []
  exact ⟨executes.memory, executes.ended⟩

end Conversation

end Narrative
