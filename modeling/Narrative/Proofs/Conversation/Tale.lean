import Narrative.Proofs.Conversation.Integrity

/-!
# The tale of a conversation

How fast the text appears, when the player confirms and where the highlight goes meanwhile is not
part of the tale. The tale of a conversation is what a hasty listener makes of it, to whom every
line is whole and every end closed as soon as the dialog comes to it. A tick either leaves the tale
as it is or goes on with it in the one way that the graph and the choice of the player allow.
-/

namespace Narrative

open Dialog (Manner Memory Stop Wait applyEffect applyEffects)

/-- Whether a call is part of the tale, unlike the sounds and the highlight that the player
moves. -/
def Call.isTold : Call → Bool
  | playSound _ => false
  | highlight _ => false
  | _ => true

namespace Dialog

/-- What a wait is to a hasty listener: a line is whole, the highlight does not matter, and an end
is closed. -/
def Wait.hasty? : Wait → Option Wait
  | .reveal .. => some .confirm
  | .choose count _ => some (.choose count 0)
  | .closing _ => none
  | wait => some wait

/-- What is told of the rest of a line. -/
def untold (remaining : List Char) (speaker : Speaker) : List Call :=
  remaining.map Call.showText ++ if speaker = .narrator then [] else [.setTalking speaker false]

/-- What a wait has still to tell of its node. -/
def Wait.untold : Wait → List Call
  | .reveal remaining _ speaker => Dialog.untold remaining speaker
  | _ => []

/-- A stop as a hasty listener hears it. -/
def Stop.hasty (stop : Stop) : Stop :=
  ⟨stop.node, stop.character, stop.wait.bind Wait.hasty?, stop.memory,
    stop.calls.filter Call.isTold ++ stop.wait.elim [] Wait.untold⟩

/-- The manner of the hasty. -/
def Manner.hasty : Manner := ⟨.instant, .standard, .standard⟩

/-- The hasty close a dialog at once. -/
theorem Manner.hasty_closes : Manner.hasty.pace.delay.isZero = true := by decide

/-- The calls before a stop are heard first. -/
theorem Stop.hasty_after (stop : Stop) (calls : List Call) :
    (stop.after calls).hasty = stop.hasty.after (calls.filter Call.isTold) := by
  unfold Stop.hasty Stop.after
  rw [List.filter_append, List.append_assoc]

/-- What effects do is not a matter of the log. -/
theorem value_applyEffects (tracing other : Tracing) (memory : Memory) (effects : List Effect) :
    (applyEffects tracing memory effects).value = (applyEffects other memory effects).value := by
  induction effects generalizing memory with
  | nil => rfl
  | cons effect rest ih =>
    unfold applyEffects
    rw [Logged.value_bind, Logged.value_bind, Logged.value_bind, Logged.value_bind, ih]
    rfl

/-- However much of a line is revealed, a hasty listener has heard the whole line. -/
theorem told_revealLine (manner : Manner) (remaining : List Char) (budget : Duration)
    (speaker : Speaker) :
    (revealLine manner remaining budget speaker).1.hasty? = some .confirm ∧
      (revealLine manner remaining budget speaker).2.filter Call.isTold ++
        (revealLine manner remaining budget speaker).1.untold = untold remaining speaker := by
  have shown (characters : List Char) : (characters.flatMap fun character =>
      [Call.showText character, .playSound manner.sounds.speak]).filter Call.isTold =
        characters.map Call.showText := by
    induction characters with
    | nil => rfl
    | cons first rest ih => exact congrArg (Call.showText first :: ·) ih
  have whole := reveal_append manner.pace.interval remaining budget
  unfold revealLine untold
  dsimp only
  split
  · next finished =>
    rw [List.isEmpty_iff.1 finished, List.append_nil] at whole
    rw [List.filter_append, shown, whole]
    refine ⟨rfl, (List.append_nil _).trans ?_⟩
    split <;> rfl
  · rw [shown]
    refine ⟨rfl, ?_⟩
    change _ ++ (List.map Call.showText _ ++ _) = _
    rw [← List.append_assoc, ← List.map_append, whole]

/-- A line that is brought up is whole to a hasty listener. -/
theorem hasty_line (manner : Manner) (node : NodeId) (character : Option Speaker) (memory : Memory)
    (opening : List Call) (remaining : List Char) (budget : Duration) (speaker : Speaker) :
    Stop.hasty ⟨node, character, some (revealLine manner remaining budget speaker).1, memory,
        opening ++ (revealLine manner remaining budget speaker).2⟩ =
      ⟨node, character, some .confirm, memory,
        opening.filter Call.isTold ++ untold remaining speaker⟩ := by
  obtain ⟨waits, told⟩ := told_revealLine manner remaining budget speaker
  rw [← told, ← List.append_assoc, ← List.filter_append, ← waits]
  rfl

/-- A walk is the same to a hasty listener in every manner. -/
theorem hasty_walk (manner : Manner) (dialog : DialogGraph) (bound : Nat) (node : NodeId)
    (character : Option Speaker) (memory : Memory) :
    (walk manner dialog bound node character memory).value.hasty =
      (walk .hasty dialog bound node character memory).value.hasty := by
  induction bound generalizing node character memory with
  | zero => rfl
  | succ bound ih =>
    unfold walk
    cases dialog.graph.kind? node with
    | none => rfl
    | some kind =>
      dsimp only
      rw [Logged.value_bind, Logged.value_bind]
      cases kind with
      | start =>
        dsimp only
        cases dialog.graph.connected? node Port.exit with
        | none => rfl
        | some next => exact ih next character memory
      | line line => exact (hasty_line ..).trans (hasty_line ..).symm
      | branch mode options =>
        cases mode with
        | player => rfl
        | automatic =>
          dsimp only
          rw [Logged.value_bind, Logged.value_bind]
          cases (Branch.resolve memory.flags options).value with
          | none => rfl
          | some index =>
            dsimp only
            cases dialog.graph.connected? node (Port.option index) with
            | none => rfl
            | some next =>
              dsimp only
              rw [Logged.value_bind, Logged.value_bind,
                value_applyEffects manner.tracing Manner.hasty.tracing]
              refine (Stop.hasty_after ..).trans (Eq.trans ?_ (Stop.hasty_after ..).symm)
              exact congrArg (Stop.after _) (ih ..)
      | event effects =>
        dsimp only
        rw [Logged.value_bind, Logged.value_bind,
          value_applyEffects manner.tracing Manner.hasty.tracing]
        cases dialog.graph.connected? node Port.exit with
        | none => rfl
        | some next =>
          refine (Stop.hasty_after ..).trans (Eq.trans ?_ (Stop.hasty_after ..).symm)
          exact congrArg (Stop.after _) (ih ..)
      | finish =>
        dsimp only
        rw [if_pos Manner.hasty_closes]
        split <;> rfl

end Dialog

/-- What a hasty listener makes of a performance. -/
structure Tale where
  /-- The dialog, unless it is over. -/
  session : Option Session
  /-- What the story remembers. -/
  memory : Memory
  /-- What was told. -/
  calls : List Call

/-- The tale after other calls were told. -/
def Tale.after (calls : List Call) (tale : Tale) : Tale :=
  { tale with calls := calls ++ tale.calls }

namespace Session

/-- A running dialog to a hasty listener. -/
def hasty? (session : Session) : Option Session :=
  session.wait.hasty?.map fun wait => { session with wait := wait }

/-- What a running dialog has still to tell before it goes on or is over. -/
def untold (session : Session) : List Call :=
  match session.wait with
  | .closing _ => .dialogEnd :: Conversation.restoreCalls session.restore
  | wait => wait.untold

/-- A dialog that is not about to close has still to tell what its wait has. -/
theorem untold_of_hasty {session : Session} (waits : session.wait.hasty? ≠ none) :
    session.untold = session.wait.untold := by
  unfold untold
  split
  · next closing =>
    rw [closing] at waits
    exact absurd rfl waits
  · rfl

/-- The tale of where a walk of a running dialog comes to. -/
def tell (session : Session) (stop : Stop) : Tale :=
  match stop.wait with
  | none =>
    ⟨none, stop.memory,
      stop.calls ++ .dialogEnd :: Conversation.restoreCalls session.restore⟩
  | some wait =>
    ⟨some { session with node := stop.node, character := stop.character, wait := wait },
      stop.memory, stop.calls⟩

/-- The tale of a walk of a running dialog from a node on. -/
def tellFrom (session : Session) (node : NodeId) (memory : Memory) : Tale :=
  session.tell (Dialog.run .hasty session.dialog node session.character memory).value.hasty

/-- The tale of a running dialog that stays where it is for good. -/
def tellStall (session : Session) (port : String) (memory : Memory) : Tale :=
  ⟨some { session with wait := .stalled (.portUnwired port) }, memory, []⟩

/-- The tale of going on after a line. -/
def goOn (session : Session) (memory : Memory) : Tale :=
  match session.dialog.graph.connected? session.node Port.exit with
  | none => session.tellStall Port.exit memory
  | some next => session.tellFrom next memory

/-- The tale of going on by an option. -/
def goOnBy (session : Session) (index : Nat) (memory : Memory) : Tale :=
  match session.dialog.graph.connected? session.node (Port.option index) with
  | none => session.tellStall (Port.option index) memory
  | some next =>
    let effects :=
      match session.dialog.graph.kind? session.node with
      | some (.branch _ options) => (options[index]?).elim [] DialogOption.effects
      | _ => []
    let applied := (applyEffects Manner.hasty.tracing memory effects).value
    (session.tellFrom next applied.1).after (applied.2.filter Call.isTold)

end Session

/-- The tale of a conversation that has asked the host for something. -/
def Conversation.tale (conversation : Conversation) (flags : Flags) (calls : List Call) : Tale :=
  ⟨conversation.session.bind Session.hasty?, conversation.memory flags,
    calls.filter Call.isTold ++ conversation.session.elim [] Session.untold⟩

/-- The tale of a turn. -/
def Turn.tale (turn : Turn) : Tale := turn.conversation.tale turn.flags turn.calls

/-- The calls before a turn are told first. -/
theorem Turn.tale_after (turn : Turn) (calls : List Call) :
    (turn.after calls).tale = turn.tale.after (calls.filter Call.isTold) := by
  unfold Turn.tale Turn.after Conversation.tale Tale.after
  rw [List.filter_append, List.append_assoc]

namespace Conversation

variable {conversation : Conversation} {session : Session}

/-- Nothing is left out of the tale when a dialog is over. -/
theorem told_ending (restore : Option (Option String)) :
    (Call.dialogEnd :: restoreCalls restore).filter Call.isTold =
      .dialogEnd :: restoreCalls restore := by
  obtain _ | _ | cue := restore <;> rfl

/-- The tale of a dialog that is over. -/
theorem tale_finish (conversation : Conversation) (session : Session) (flags : Flags) :
    (finish conversation session flags).value.tale =
      ⟨none, conversation.memory flags, .dialogEnd :: restoreCalls session.restore⟩ := by
  refine congrArg (Tale.mk none _) ((List.append_nil _).trans (told_ending _))

/-- The tale of where a walk comes to is that of the hasty walk. -/
theorem tale_settle (conversation : Conversation) (session : Session) (stop : Stop) :
    (settle conversation session stop).value.tale = session.tell stop.hasty := by
  obtain ⟨node, character, wait, memory, calls⟩ := stop
  cases wait with
  | none =>
    refine (Turn.tale_after _ calls).trans ?_
    rw [tale_finish]
    unfold Session.tell Stop.hasty Tale.after
    dsimp only [Option.bind, Option.elim]
    rw [List.append_nil]
    rfl
  | some wait =>
    cases wait with
    | closing remaining =>
      unfold Session.tell Stop.hasty
      dsimp only [Option.bind, Option.elim]
      change _ = Tale.mk none memory ((_ ++ []) ++ _)
      rw [List.append_nil]
      rfl
    | _ => rfl

/-- Going on from a node is told as by the hasty. -/
theorem tale_goTo (conversation : Conversation) (session : Session) (node : NodeId)
    (memory : Memory) :
    (goTo conversation session node memory).value.tale = session.tellFrom node memory :=
  (tale_settle ..).trans (congrArg session.tell (Dialog.hasty_walk ..))

/-- Staying for good is told in one way. -/
theorem tale_stall (conversation : Conversation) (session : Session) (flags : Flags)
    (port : String) :
    (stall conversation session flags (.portUnwired port)).value.tale =
      session.tellStall port (conversation.memory flags) := by
  unfold stall
  rw [Logged.value_bind, tale_settle]
  rfl

/-- A choice is told as by the hasty. -/
theorem tale_choose (conversation : Conversation) (session : Session) (index : Nat)
    (flags : Flags) :
    (choose conversation session index flags).value.tale =
      session.goOnBy index (conversation.memory flags) := by
  unfold choose Session.goOnBy
  cases session.dialog.graph.connected? session.node (Port.option index) with
  | none => exact tale_stall ..
  | some next =>
    dsimp only
    rw [Logged.value_bind, Logged.value_bind,
      Dialog.value_applyEffects conversation.manner.tracing Manner.hasty.tracing]
    exact (Turn.tale_after ..).trans (congrArg (Tale.after _) (tale_goTo ..))

/-- What the highlight does is not told. -/
theorem told_moveHighlight (sounds : SoundCues) (input : Input) (count selected : Nat) :
    (moveHighlight sounds input count selected).2.filter Call.isTold = [] := by
  unfold moveHighlight
  split
  · rfl
  · split <;> rfl

/-- A tick goes on with the tale if the player confirms a line or an option, and leaves it as it is
otherwise. -/
theorem tale_resumeSession (running : conversation.session = some session) (tick : Tick)
    (animating : Bool) (flags : Flags) :
    (resumeSession conversation session tick animating flags).value.tale =
      if tick.input.confirm && !animating then
        match session.wait with
        | .confirm => session.goOn (conversation.memory flags)
        | .choose count selected =>
          (session.goOnBy
            (moveHighlight conversation.manner.sounds tick.input count selected).1
            (conversation.memory flags)).after [.hideOptions]
        | _ => conversation.tale flags []
      else conversation.tale flags [] := by
  have waits (wait : Wait) (calls : List Call) (hasty : wait.hasty? = session.wait.hasty?)
      (told : calls.filter Call.isTold ++ Session.untold { session with wait := wait } =
        session.untold) :
      (keep conversation session wait flags calls).tale = conversation.tale flags [] := by
    unfold Conversation.tale
    rw [running]
    unfold Turn.tale Conversation.tale keep
    dsimp only [Option.bind, Option.elim]
    unfold Session.hasty?
    rw [told, hasty]
    rfl
  unfold resumeSession
  dsimp only
  cases waiting : session.wait with
  | reveal remaining budget speaker =>
    dsimp only
    rw [ite_self]
    obtain ⟨hasty, told⟩ := Dialog.told_revealLine conversation.manner remaining
      (budget.add tick.elapsed) speaker
    refine waits _ _ (hasty.trans (congrArg Wait.hasty? waiting).symm) ?_
    rw [Session.untold_of_hasty (hasty.trans_ne (Option.some_ne_none _))]
    unfold Session.untold
    rw [waiting]
    exact told
  | confirm =>
    dsimp only
    split
    · unfold Session.goOn
      cases session.dialog.graph.connected? session.node Port.exit with
      | none => exact (Turn.tale_after ..).trans (congrArg (Tale.after []) (tale_stall ..))
      | some next => exact (Turn.tale_after ..).trans (congrArg (Tale.after []) (tale_goTo ..))
    · exact waits .confirm [] (congrArg Wait.hasty? waiting).symm (by rw [← waiting]; rfl)
  | choose count selected =>
    have moves := told_moveHighlight conversation.manner.sounds tick.input count selected
    dsimp only
    split
    · rw [Logged.value_bind]
      refine (Turn.tale_after ..).trans ?_
      rw [List.filter_append, moves, tale_choose]
      rfl
    · refine waits (.choose count _) _ (congrArg Wait.hasty? waiting).symm ?_
      rw [moves]
      unfold Session.untold
      rw [waiting]
      rfl
  | closing remaining =>
    dsimp only
    rw [ite_self]
    split
    · rw [tale_finish]
      unfold Conversation.tale
      rw [running]
      dsimp only [Option.bind, Option.elim]
      unfold Session.hasty? Session.untold
      rw [waiting]
      rfl
    · refine waits (.closing _) [] (congrArg Wait.hasty? waiting).symm ?_
      unfold Session.untold
      rw [waiting]
      rfl
  | stalled reason =>
    dsimp only
    rw [ite_self]
    exact waits (.stalled reason) [] (congrArg Wait.hasty? waiting).symm (by rw [← waiting]; rfl)

/-- The start of a dialog is told in one way, but for the music that it brings back at its end. -/
theorem tale_start {dialog : DialogGraph} {music : Option String} {flags : Flags}
    {turn : Logged Turn} (started : conversation.start dialog music flags = .ok turn) :
    ∃ node, dialog.graph.start = .ok node ∧
      turn.value.tale = (Session.tellFrom
        ⟨dialog, node, .confirm, dialog.firstCharacter?, dialog.music.map fun _ => music⟩ node
        (conversation.memory flags)).after ((openingCalls dialog).filter Call.isTold) := by
  obtain ⟨-, node, begins, same⟩ := start_ok started
  refine ⟨node, begins, ?_⟩
  rw [same, Turn.tale_after, tale_goTo]

end Conversation

end Narrative
