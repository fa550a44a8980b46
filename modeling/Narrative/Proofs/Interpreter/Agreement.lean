import Narrative.Interpreter
import Narrative.Proofs.Conversation.Integrity

/-!
# Interpreters and conversations

An interpreter that was built and used holds a dialog, a place and a step together or none of them,
and does what a conversation does that holds them in its session. The two are related by what they
hold, and every command keeps them related and is answered by both alike, so that the answers to any
commands in a row are the same.
-/

namespace Narrative

open Dialog (Manner Memory Stop Wait)

namespace Logged

variable {α β γ δ : Type} {related : α → β → Prop} {further : γ → δ → Prop}

/-- Sequences nest either way. -/
theorem bind_assoc (first : Logged α) (second : α → Logged β) (third : β → Logged γ) :
    first >>= second >>= third = first >>= fun value => second value >>= third :=
  congrArg (Logged.mk _) (List.append_assoc ..)

/-- Two operations that write the same entries, and whose values are related. -/
structure Agree (related : α → β → Prop) (first : Logged α) (second : Logged β) : Prop where
  /-- The entries are the same. -/
  entries : first.entries = second.entries
  /-- The values are related. -/
  value : related first.value second.value

namespace Agree

/-- Values that are related. -/
theorem pure {left : α} {right : β} (same : related left right) :
    Agree related (Pure.pure left) (Pure.pure right) := ⟨rfl, same⟩

/-- Sequences agree if they go on in agreement from related values. -/
theorem bind {first : Logged α} {second : Logged β} (agree : Agree related first second)
    {next : α → Logged γ} {other : β → Logged δ}
    (goes : Agree further (next first.value) (other second.value)) :
    Agree further (first >>= next) (second >>= other) :=
  ⟨congrArg₂ (· ++ ·) agree.entries goes.entries, goes.value⟩

/-- After the same operation two others agree as they do alone. -/
theorem seq (first : Logged α) {next : α → Logged γ} {other : α → Logged δ}
    (goes : Agree further (next first.value) (other first.value)) :
    Agree further (first >>= next) (first >>= other) :=
  ⟨congrArg (first.entries ++ ·) goes.entries, goes.value⟩

end Agree

end Logged

open Logged (Agree)

/-- The step of an interpreter at a node that waits for the same as a session. The characters that
are still to come are those after the ones that are shown of the line at the node. -/
inductive Interpreter.Step.Awaits (dialog : DialogGraph) (node : NodeId) : Step → Wait → Prop where
  /-- Revealing a line. -/
  | reveal {line : Line} (known : dialog.graph.kind? node = some (.line line)) (next : Nat)
      (budget : Duration) (speaker : Speaker) :
      Awaits dialog node (.reveal line.text.toList next budget speaker)
        (.reveal (line.text.toList.drop next) budget speaker)
  /-- Waiting for a line to be confirmed. -/
  | confirm : Awaits dialog node .confirm .confirm
  /-- Waiting for a choice. -/
  | choose (count selected : Nat) : Awaits dialog node (.choose count selected)
      (.choose count selected)
  /-- Waiting for the end. -/
  | closing (remaining : Duration) : Awaits dialog node (.closing remaining) (.closing remaining)
  /-- Staying for good. -/
  | stalled (reason : Dialog.Stall) : Awaits dialog node (.stalled (.dialog reason))
      (.stalled reason)

/-- An interpreter that holds what a conversation does. Without a session the registers of its
dialog are clear; with one they are filled from it, and the step waits for the same. -/
inductive Interpreter.Plays : Interpreter → Conversation → Prop where
  /-- There is no dialog. -/
  | idle (manner : Manner) (requested : Option StateKind) (reported : Bool) :
      Plays ⟨manner, none, .unstarted, .idle, none, none, false, requested, reported⟩
        ⟨manner, none, requested, reported⟩
  /-- There is one. -/
  | running (manner : Manner) (session : Session) {step : Step} (previous : Option String)
      (overridden : Bool) (requested : Option StateKind) (reported : Bool)
      (awaits : step.Awaits session.dialog session.node session.wait)
      (restores : session.restore = if overridden then some previous else none) :
      Plays ⟨manner, some session.dialog, ⟨some session.node⟩, step, session.character, previous,
        overridden, requested, reported⟩ ⟨manner, some session, requested, reported⟩

/-- A turn of an interpreter that comes to the same as a turn of a conversation. -/
structure Interpreter.Turn.Matches (turn : Turn) (other : Narrative.Turn) : Prop where
  /-- The interpreter holds what the conversation does. -/
  plays : turn.interpreter.Plays other.conversation
  /-- The flags are the same. -/
  flags : turn.flags = other.flags
  /-- The host is asked the same. -/
  calls : turn.calls = other.calls
  /-- The dialog has come as far. -/
  progress : turn.progress = other.progress

namespace Interpreter

/-- The interpreter that plays the dialog of a session of a conversation at some node. -/
def playing (conversation : Conversation) (session : Session) (previous : Option String)
    (overridden : Bool) (node : NodeId) (step : Step) (memory : Memory) : Interpreter :=
  ⟨conversation.manner, some session.dialog, ⟨some node⟩, step, session.character, previous,
    overridden, memory.requested, conversation.idleReported⟩

variable {conversation : Conversation} {session : Session} {node : NodeId} {step : Step}
  {previous : Option String} {overridden : Bool} {memory : Memory} {flags : Flags}

/-- Calls before both turns. -/
theorem Turn.Matches.after {turn : Interpreter.Turn} {other : Narrative.Turn}
    (same : turn.Matches other) (calls : List Call) :
    (turn.after calls).Matches (other.after calls) :=
  ⟨same.plays, same.flags, congrArg (calls ++ ·) same.calls, same.progress⟩

/-- The music is brought back by the same calls. -/
theorem restoreCalls_eq (interpreter : Interpreter) :
    interpreter.restoreCalls =
      Conversation.restoreCalls
        (if interpreter.overridden then some interpreter.previous else none) := by
  unfold restoreCalls Conversation.restoreCalls
  cases interpreter.overridden with
  | false => rfl
  | true => cases interpreter.previous <;> rfl

/-- The characters that there is time for are the same, whether they are counted or taken off. -/
theorem reveal_drop (interval : Duration) (characters : List Char) (next : Nat)
    (budget : Duration) :
    let came := revealFrom interval characters next budget
    Dialog.reveal interval (characters.drop next) budget =
      (came.1, characters.drop came.2.1, came.2.2) := by
  fun_induction revealFrom interval characters next budget with
  | case1 next budget reaches inside shown after left same ih =>
    rw [same] at ih
    rw [List.drop_eq_getElem_cons inside]
    dsimp only at ih ⊢
    unfold Dialog.reveal
    rw [if_pos reaches, ih]
  | case2 next budget reaches outside =>
    dsimp only
    rw [List.drop_eq_nil_of_le (Nat.le_of_not_lt outside)]
    unfold Dialog.reveal
    rfl
  | case3 next budget short =>
    dsimp only
    cases characters.drop next with
    | nil =>
      unfold Dialog.reveal
      rfl
    | cons first rest =>
      unfold Dialog.reveal
      exact if_neg short

/-- Where a walk waits is taken over. -/
theorem settle_matches (conversation : Conversation) {wait : Wait}
    (awaits : step.Awaits session.dialog node wait)
    (restores : session.restore = if overridden then some previous else none) (memory : Memory)
    (calls : List Call) :
    Agree Turn.Matches
      (pure ⟨playing conversation session previous overridden node step memory, memory.flags,
        calls, wait.progress⟩)
      (conversation.settle session ⟨node, session.character, some wait, memory, calls⟩) :=
  .pure ⟨.running conversation.manner { session with node := node, wait := wait } previous
    overridden memory.requested conversation.idleReported awaits restores, rfl, rfl, rfl⟩

/-- A stop with other calls before its own is taken over with them. -/
theorem settle_after (conversation : Conversation) (session : Session) (calls : List Call)
    (stop : Stop) :
    conversation.settle session (stop.after calls) =
      Narrative.Turn.after calls <$> conversation.settle session stop := by
  obtain ⟨node, character, wait, memory, others⟩ := stop
  cases wait with
  | none =>
    unfold Conversation.settle
    rw [Logged.map_bind]
    refine congrArg (_ >>= ·) (funext fun turn => congrArg pure ?_)
    exact congrArg (Narrative.Turn.mk _ _ · _) (List.append_assoc ..)
  | some wait => rfl

/-- Turns agree with other calls before theirs. -/
theorem after_agrees {first : Logged Turn} {second : Logged Narrative.Turn}
    (agree : Agree Turn.Matches first second) (calls : List Call) :
    Agree Turn.Matches (Turn.after calls <$> first)
      (second >>= fun turn => pure (turn.after calls)) :=
  agree.bind (.pure (agree.value.after calls))

/-- Walks agree with other calls before theirs. -/
theorem agree_after {first : Logged Turn} {second : Logged Stop}
    (agree : Agree Turn.Matches first (second >>= conversation.settle session))
    (calls : List Call) :
    Agree Turn.Matches (Turn.after calls <$> first)
      ((second >>= fun stop => pure (stop.after calls)) >>= conversation.settle session) := by
  have settled : ((second >>= fun stop => pure (stop.after calls)) >>=
      conversation.settle session) =
        second >>= conversation.settle session >>= fun turn => pure (turn.after calls) := by
    rw [Logged.bind_assoc, Logged.bind_assoc]
    exact congrArg (second >>= ·) (funext fun stop => settle_after conversation session calls stop)
  rw [settled]
  exact after_agrees agree calls

/-- Staying for good is taken over. -/
theorem stall_agrees (conversation : Conversation)
    (restores : session.restore = if overridden then some previous else none)
    (node : NodeId) (step : Step) (memory : Memory) (reason : Dialog.Stall) :
    Agree Turn.Matches
      (stall (playing conversation session previous overridden node step memory) memory.flags
        (.dialog reason))
      (Dialog.stall session.dialog node session.character memory [] reason >>=
        conversation.settle session) := by
  have awaits : Step.Awaits session.dialog node _ _ := .stalled reason
  have settled := settle_matches conversation awaits restores memory []
  exact ⟨rfl, settled.value⟩

/-- The end of a dialog leaves both without it. -/
theorem finish_agrees (conversation : Conversation)
    (restores : session.restore = if overridden then some previous else none) (node : NodeId)
    (step : Step) (flags : Flags) :
    Agree Turn.Matches
      (finish (playing conversation session previous overridden node step
        (conversation.memory flags)) flags)
      (conversation.finish session flags) := by
  refine .seq _ (.pure ⟨.idle conversation.manner conversation.requested false, rfl, ?_, rfl⟩)
  rw [restores]
  exact congrArg (Call.dialogEnd :: ·) (restoreCalls_eq _)

/-- Staying for good after some calls. -/
theorem stall_after (dialog : DialogGraph) (node : NodeId) (character : Option Speaker)
    (memory : Memory) (calls : List Call) (reason : Dialog.Stall) :
    Dialog.stall dialog node character memory calls reason =
      Dialog.stall dialog node character memory [] reason >>= fun stop =>
        pure (stop.after calls) := by
  have whole : Stop.mk node character (some (.stalled reason)) memory calls =
      Stop.after calls ⟨node, character, some (.stalled reason), memory, []⟩ := by
    unfold Stop.after
    rw [List.append_nil]
  unfold Dialog.stall
  rw [Logged.bind_assoc, whole]
  rfl

/-- A revealed part of a line is taken over, whichever part was shown before. -/
theorem reveal_matches (conversation : Conversation) {line : Line}
    (known : session.dialog.graph.kind? node = some (.line line))
    (restores : session.restore = if overridden then some previous else none) (next : Nat)
    (budget : Duration) (speaker : Speaker) (memory : Memory) :
    let step := Step.reveal line.text.toList next budget speaker
    let came := Dialog.revealLine conversation.manner (line.text.toList.drop next) budget speaker
    (reveal (playing conversation session previous overridden node step memory)
      memory.flags).Matches
        (conversation.settle session
          ⟨node, session.character, some came.1, memory, came.2⟩).value := by
  let came := revealFrom conversation.manner.pace.interval line.text.toList next budget
  have same : Dialog.reveal conversation.manner.pace.interval (line.text.toList.drop next) budget =
      (came.1, line.text.toList.drop came.2.1, came.2.2) := reveal_drop ..
  unfold reveal playing Dialog.revealLine
  dsimp only
  rw [same]
  dsimp only
  by_cases more : came.2.1 < line.text.toList.length
  · have left : (line.text.toList.drop came.2.1).isEmpty = false := by simpa using more
    rw [if_pos more, left]
    exact (settle_matches conversation (.reveal known _ _ _) restores memory _).value
  · have left : (line.text.toList.drop came.2.1).isEmpty = true := by simpa using more
    rw [if_neg more, left]
    exact (settle_matches conversation .confirm restores memory _).value

/-- An interpreter goes on by a port as the conversation does that goes on from there. -/
theorem onward_agrees (conversation : Conversation)
    (restores : session.restore = if overridden then some previous else none) {bound : Nat}
    (node : NodeId) (step : Step) (port : String) (reason : Dialog.Stall) (memory : Memory)
    (goesOn : ∀ next, Agree Turn.Matches
      (walk session.dialog bound (playing conversation session previous overridden next step memory)
        memory.flags)
      (Dialog.walk conversation.manner session.dialog bound next session.character memory >>=
        conversation.settle session)) :
    let interpreter := playing conversation session previous overridden node step memory
    Agree Turn.Matches
      (match interpreter.advance? port with
        | none => interpreter.stall memory.flags (.dialog reason)
        | some interpreter => walk session.dialog bound interpreter memory.flags)
      ((match session.dialog.graph.connected? node port with
        | none => Dialog.stall session.dialog node session.character memory [] reason
        | some next =>
          Dialog.walk conversation.manner session.dialog bound next session.character memory) >>=
        conversation.settle session) := by
  unfold advance? Cursor.next? playing
  dsimp only [Option.bind]
  cases session.dialog.graph.connected? node port with
  | none => exact stall_agrees conversation restores node step memory reason
  | some next => exact goesOn next

/-- An interpreter walks as the conversation does. -/
theorem walk_agrees (conversation : Conversation)
    (restores : session.restore = if overridden then some previous else none) (bound : Nat)
    (node : NodeId) (step : Step) (memory : Memory) :
    Agree Turn.Matches
      (walk session.dialog bound (playing conversation session previous overridden node step memory)
        memory.flags)
      (Dialog.walk conversation.manner session.dialog bound node session.character memory >>=
        conversation.settle session) := by
  induction bound generalizing node step memory with
  | zero => exact stall_agrees conversation restores node step memory .endless
  | succ bound ih =>
    unfold walk Dialog.walk
    dsimp only [playing]
    cases known : session.dialog.graph.kind? node with
    | none => exact stall_agrees conversation restores node step memory .outside
    | some kind =>
      dsimp only
      rw [Logged.bind_assoc]
      refine .seq _ ?_
      have goes (port : String) (reason : Dialog.Stall) (memory : Memory) :=
        onward_agrees conversation restores node step port reason memory (ih · step memory)
      cases kind with
      | start => exact goes Port.exit .startUnwired memory
      | line line =>
        let opened := Dialog.openLine session.character line
        let speaking : Session := { session with character := opened.1 }
        have here : speaking.dialog.graph.kind? node = some (.line line) := known
        have revealed := reveal_matches conversation here restores 0
          conversation.manner.pace.interval line.speaker memory
        exact .pure (revealed.after opened.2)
      | branch decider options =>
        cases decider with
        | player =>
          dsimp only
          by_cases empty : options.isEmpty = true
          · rw [if_pos empty, if_pos empty]
            exact stall_agrees conversation restores node step memory .nothingToChoose
          · rw [if_neg empty, if_neg empty]
            exact settle_matches conversation (.choose options.length 0) restores memory _
        | automatic =>
          dsimp only
          rw [Logged.bind_assoc]
          refine .seq _ ?_
          cases (Branch.resolve memory.flags options).value with
          | none => exact stall_agrees conversation restores node step memory .nothingOpen
          | some index =>
            dsimp only
            cases connected : session.dialog.graph.connected? node (Port.option index) with
            | none => exact stall_agrees conversation restores node step memory .optionUnwired
            | some next =>
              dsimp only [applyEffects]
              rw [Logged.bind_assoc, Logged.bind_assoc]
              refine .seq _ ?_
              have onward := goes (Port.option index) .optionUnwired
                (Dialog.applyEffects conversation.manner.tracing memory
                  ((options[index]?).elim [] DialogOption.effects)).value.1
              rw [connected] at onward
              exact agree_after onward _
      | event effects =>
        dsimp only [applyEffects]
        rw [Logged.bind_assoc, Logged.bind_assoc]
        refine .seq _ ?_
        have onward := agree_after (goes Port.exit .eventUnwired
          (Dialog.applyEffects conversation.manner.tracing memory effects).value.1)
          (Dialog.applyEffects conversation.manner.tracing memory effects).value.2
        cases connected : session.dialog.graph.connected? node Port.exit with
        | none =>
          rw [connected] at onward
          dsimp only
          rw [stall_after]
          exact onward
        | some next =>
          rw [connected] at onward
          exact onward
      | finish =>
        dsimp only
        by_cases ends : conversation.manner.pace.delay.isZero = true
        · rw [if_pos ends, if_pos ends]
          have finished := finish_agrees { conversation with requested := memory.requested }
            restores node step memory.flags
          exact ⟨finished.entries.trans (List.append_nil _).symm, finished.value⟩
        · rw [if_neg ends, if_neg ends]
          exact settle_matches conversation (.closing conversation.manner.pace.delay) restores
            memory _

/-- Leaving the node of a session by a port. -/
theorem follow_agrees (conversation : Conversation)
    (restores : session.restore = if overridden then some previous else none) (step : Step)
    (port : String) (memory : Memory) :
    Agree Turn.Matches
      (follow (playing conversation session previous overridden session.node step memory) port
        memory.flags)
      (match session.dialog.graph.connected? session.node port with
        | none => Dialog.stall session.dialog session.node session.character memory []
            (.portUnwired port) >>= conversation.settle session
        | some next => conversation.goTo session next memory) := by
  unfold follow advance? Cursor.next? playing
  dsimp only [Option.bind]
  cases session.dialog.graph.connected? session.node port with
  | none => exact stall_agrees conversation restores session.node step memory (.portUnwired port)
  | some next => exact walk_agrees conversation restores _ next .enter memory

/-- Choosing an option of the branch at the node of a session. -/
theorem choose_agrees (conversation : Conversation)
    (restores : session.restore = if overridden then some previous else none) (step : Step)
    (index : Nat) (flags : Flags) :
    Agree Turn.Matches
      (choose (playing conversation session previous overridden session.node step
        (conversation.memory flags)) index flags)
      (conversation.choose session index flags) := by
  unfold choose Conversation.choose playing
  dsimp only
  cases connected : session.dialog.graph.connected? session.node (Port.option index) with
  | none =>
    exact stall_agrees conversation restores session.node step (conversation.memory flags)
      (.portUnwired (Port.option index))
  | some next =>
    dsimp only [applyEffects]
    refine .seq _ ?_
    rw [Logged.bind_assoc]
    refine .seq _ ?_
    have followed (memory : Memory) :=
      follow_agrees conversation restores step (Port.option index) memory
    rw [connected] at followed
    exact after_agrees (followed _) _

variable {interpreter : Interpreter}

/-- Going on for one tick. -/
theorem resume_agrees (plays : interpreter.Plays conversation) (tick : Tick) (animating : Bool)
    (flags : Flags) :
    Agree Turn.Matches (interpreter.resume tick animating flags)
      (conversation.resume tick animating flags) := by
  cases plays with
  | idle manner requested reported =>
    have plays := Plays.idle manner requested true
    have idle : Agree Turn.Matches (pure ⟨_, flags, [], .idle⟩) (pure ⟨_, flags, [], .idle⟩) :=
      .pure ⟨plays, rfl, rfl, rfl⟩
    cases reported with
    | true => exact idle
    | false => exact .seq _ idle
  | running manner session previous overridden requested reported awaits restores =>
    obtain ⟨dialog, node, wait, character, restore⟩ := session
    let session : Session := ⟨dialog, node, wait, character, restore⟩
    let conversation : Conversation := ⟨manner, some session, requested, reported⟩
    have keeps {step : Step} {wait : Wait} (awaits : step.Awaits dialog node wait)
        (calls : List Call) : Agree Turn.Matches _
          (pure (conversation.keep session wait flags calls)) :=
      settle_matches conversation awaits restores (conversation.memory flags) calls
    unfold resume Conversation.resume Conversation.resumeSession
    cases awaits with
    | @reveal line known next budget speaker =>
      have revealed := reveal_matches conversation known restores next
        (budget.add tick.elapsed) speaker (conversation.memory flags)
      exact .pure revealed
    | confirm =>
      dsimp only
      by_cases confirmed : (tick.input.confirm && !animating) = true
      · rw [if_pos confirmed, if_pos confirmed]
        have followed :=
          follow_agrees conversation restores .idle Port.exit (conversation.memory flags)
        cases connected : dialog.graph.connected? node Port.exit with
        | none =>
          rw [connected] at followed
          exact after_agrees followed _
        | some next =>
          rw [connected] at followed
          exact after_agrees followed _
      · rw [if_neg confirmed, if_neg confirmed]
        exact keeps .confirm []
    | choose count selected =>
      dsimp only
      by_cases confirmed : (tick.input.confirm && !animating) = true
      · rw [if_pos confirmed, if_pos confirmed]
        have chosen := choose_agrees conversation restores .idle
          (Conversation.moveHighlight manner.sounds tick.input count selected).1 flags
        exact after_agrees chosen _
      · rw [if_neg confirmed, if_neg confirmed]
        exact keeps (.choose count _) _
    | closing remaining =>
      dsimp only
      by_cases ended : (remaining.sub tick.elapsed).isZero = true
      · rw [if_pos ended, if_pos ended]
        exact finish_agrees conversation restores node .idle flags
      · rw [if_neg ended, if_neg ended]
        exact keeps (.closing _) []
    | stalled reason => exact keeps (.stalled reason) []

/-- A dialog starts in both or in none, and the reason is the same. -/
theorem start_agrees (plays : interpreter.Plays conversation) (dialog : DialogGraph)
    (music : Option String) (flags : Flags) :
    (∃ error, interpreter.start dialog music flags = .error error ∧
        conversation.start dialog music flags = .error error) ∨
      ∃ turn other, interpreter.start dialog music flags = .ok turn ∧
        conversation.start dialog music flags = .ok other ∧ Agree Turn.Matches turn other := by
  cases plays with
  | running manner session previous overridden requested reported awaits restores =>
    exact .inl ⟨_, rfl, rfl⟩
  | idle manner requested reported =>
    unfold start Conversation.start
    dsimp only
    cases dialog.graph.start with
    | error error => exact .inl ⟨_, rfl, rfl⟩
    | ok node =>
      let session : Session :=
        ⟨dialog, node, .confirm, dialog.firstCharacter?, dialog.music.map fun _ => music⟩
      have restores : session.restore = if dialog.music.isSome then some music else none := by
        change dialog.music.map (fun _ => music) = _
        cases dialog.music <;> rfl
      have walked := walk_agrees ⟨manner, none, requested, false⟩ restores (dialog.graph.size + 1)
        node .enter ⟨flags, requested⟩
      exact .inr ⟨_, _, rfl, rfl, .seq _ (after_agrees walked _)⟩

/-- Breaking off the dialog. -/
theorem abandon_agrees (plays : interpreter.Plays conversation) :
    Agree (fun left other => left.1.Plays other.1 ∧ left.2 = other.2) interpreter.abandon
      conversation.abandon := by
  cases plays with
  | idle manner requested reported => exact .pure ⟨.idle manner requested reported, rfl⟩
  | running manner session previous overridden requested reported awaits restores =>
    obtain ⟨dialog, node, wait, character, restore⟩ := session
    refine .seq _ (.pure ⟨.idle manner requested false, ?_⟩)
    dsimp only at restores ⊢
    rw [restores, restoreCalls_eq]
    cases awaits <;> rfl

end Interpreter

/-- What a command is answered with. -/
inductive Conversation.Reply where
  /-- No dialog was started. -/
  | refused (error : StartError)
  /-- A dialog came so far, with what was reported and what the host is asked to do. -/
  | came (entries : List Entry) (calls : List Call) (flags : Flags) (progress : Progress)
  /-- The dialog was broken off, if there was one. -/
  | left (entries : List Entry) (calls : List Call)
  /-- Everything was forgotten. -/
  | forgot
  /-- This state had been asked for. -/
  | took (requested : Option StateKind)
  deriving DecidableEq

namespace Conversation

/-- What a conversation answers to a command. -/
def reply (conversation : Conversation) : Command → Reply
  | .start dialog music flags =>
    match conversation.start dialog music flags with
    | .error error => .refused error
    | .ok turn => .came turn.entries turn.value.calls turn.value.flags turn.value.progress
  | .resume tick animating flags =>
    let turn := conversation.resume tick animating flags
    .came turn.entries turn.value.calls turn.value.flags turn.value.progress
  | .abandon => .left conversation.abandon.entries conversation.abandon.value.2
  | .reset => .forgot
  | .takeRequested => .took conversation.takeRequested.1

/-- What a conversation answers to commands in order. -/
def replies (conversation : Conversation) : List Command → List Reply
  | [] => []
  | command :: rest => conversation.reply command :: (conversation.obey command).replies rest

end Conversation

namespace Interpreter

open Conversation (Command Reply)

/-- The interpreter after a command. -/
def obey (interpreter : Interpreter) : Command → Interpreter
  | .start dialog music flags =>
    match interpreter.start dialog music flags with
    | .error _ => interpreter
    | .ok turn => turn.value.interpreter
  | .resume tick animating flags => (interpreter.resume tick animating flags).value.interpreter
  | .abandon => interpreter.abandon.value.1
  | .reset => interpreter.reset
  | .takeRequested => interpreter.takeRequested.2

/-- The interpreter after commands in order. -/
def obeyAll (interpreter : Interpreter) : List Command → Interpreter
  | [] => interpreter
  | command :: rest => (interpreter.obey command).obeyAll rest

/-- What an interpreter answers to a command. -/
def reply (interpreter : Interpreter) : Command → Reply
  | .start dialog music flags =>
    match interpreter.start dialog music flags with
    | .error error => .refused error
    | .ok turn => .came turn.entries turn.value.calls turn.value.flags turn.value.progress
  | .resume tick animating flags =>
    let turn := interpreter.resume tick animating flags
    .came turn.entries turn.value.calls turn.value.flags turn.value.progress
  | .abandon => .left interpreter.abandon.entries interpreter.abandon.value.2
  | .reset => .forgot
  | .takeRequested => .took interpreter.takeRequested.1

/-- What an interpreter answers to commands in order. -/
def replies (interpreter : Interpreter) : List Command → List Reply
  | [] => []
  | command :: rest => interpreter.reply command :: (interpreter.obey command).replies rest

variable {interpreter : Interpreter} {conversation : Conversation}

/-- A turn that comes to the same is told alike. -/
theorem came_eq {turn : Logged Turn} {other : Logged Narrative.Turn}
    (agree : Agree Turn.Matches turn other) :
    Reply.came turn.entries turn.value.calls turn.value.flags turn.value.progress =
      .came other.entries other.value.calls other.value.flags other.value.progress := by
  rw [agree.entries, agree.value.calls, agree.value.flags, agree.value.progress]

/-- An interpreter and a conversation that hold the same answer a command alike, and hold the same
after it. -/
theorem Plays.obey (plays : interpreter.Plays conversation) (command : Command) :
    interpreter.reply command = conversation.reply command ∧
      (interpreter.obey command).Plays (conversation.obey command) := by
  unfold reply Conversation.reply Interpreter.obey Conversation.obey
  cases command with
  | start dialog music flags =>
    dsimp only
    obtain ⟨error, refused, also⟩ | ⟨turn, other, started, also, agree⟩ :=
      start_agrees plays dialog music flags
    · rw [refused, also]
      exact ⟨rfl, plays⟩
    · rw [started, also]
      exact ⟨came_eq agree, agree.value.plays⟩
  | resume tick animating flags =>
    have agree := resume_agrees plays tick animating flags
    exact ⟨came_eq agree, agree.value.plays⟩
  | abandon =>
    have agree := abandon_agrees plays
    exact ⟨congrArg₂ Reply.left agree.entries agree.value.2, agree.value.1⟩
  | reset =>
    cases plays with
    | idle manner => exact ⟨rfl, .idle manner none false⟩
    | running manner => exact ⟨rfl, .idle manner none false⟩
  | takeRequested =>
    cases plays with
    | idle manner requested reported => exact ⟨rfl, .idle manner none reported⟩
    | running manner session previous overridden requested reported awaits restores =>
      exact ⟨rfl, .running manner session previous overridden none reported awaits restores⟩

/-- An interpreter and a conversation that hold the same answer commands in order alike, and hold
the same after them. -/
theorem Plays.obeyAll (plays : interpreter.Plays conversation) (commands : List Command) :
    interpreter.replies commands = conversation.replies commands ∧
      (interpreter.obeyAll commands).Plays (conversation.obeyAll commands) := by
  induction commands generalizing interpreter conversation with
  | nil => exact ⟨rfl, plays⟩
  | cons command rest ih =>
    obtain ⟨same, onward⟩ := plays.obey command
    obtain ⟨others, after⟩ := ih onward
    exact ⟨congrArg₂ List.cons same others, after⟩

/-- What can be asked of an interpreter is told by the conversation that holds the same. -/
theorem Plays.views (plays : interpreter.Plays conversation) :
    interpreter.isRunning = conversation.isRunning ∧
      interpreter.isStalled = conversation.isStalled ∧
      interpreter.dialogName? = conversation.dialogName? ∧
      interpreter.node? = conversation.node? ∧
      interpreter.selected? = conversation.selected? := by
  cases plays with
  | idle manner requested reported => exact ⟨rfl, rfl, rfl, rfl, rfl⟩
  | running manner session previous overridden requested reported awaits restores =>
    obtain ⟨dialog, node, wait, character, restore⟩ := session
    cases awaits <;> exact ⟨rfl, rfl, rfl, rfl, rfl⟩

end Interpreter

end Narrative
