import Narrative.Proofs.Interpreter.Agreement

/-!
# The integrity of an interpreter

The registers of an interpreter that was built and used stand together. There is a dialog exactly if
there is a place, and exactly if there is something to be done. The place is a node of the graph,
and what is to be done is borne out by that node; it is never left to enter one. So the two reasons
to stall for which a register would have to be missing or stray do not occur. All of this is carried
over from conversations, with which interpreters agree.
-/

namespace Narrative.Interpreter

open Conversation (Command)

/-- A step that the node at the place bears out. It reveals a line with all its characters, not all
of which are shown, or waits for the line to be confirmed; it waits for a choice among the options
of a branch of the player, one of which is highlighted; at an end there is time to wait for. There
may be nothing to be done because the dialog stalled, but not because the place was lost or lies
outside the graph. -/
def Step.BorneOut (dialog : DialogGraph) (node : NodeId) : Step → Prop
  | .idle => False
  | .enter => False
  | .reveal characters next _ speaker =>
    ∃ line, dialog.graph.kind? node = some (.line line) ∧ speaker = line.speaker ∧
      characters = line.text.toList ∧ next < characters.length
  | .confirm => ∃ line, dialog.graph.kind? node = some (.line line)
  | .choose count selected =>
    ∃ options, dialog.graph.kind? node = some (.branch .player options) ∧
      options.length = count ∧ selected < count
  | .closing remaining => dialog.graph.kind? node = some .finish ∧ remaining.isZero = false
  | .stalled reason => reason ≠ .lost ∧ reason ≠ .dialog .outside

/-- A step is borne out where the wait of a session is for which it waits. -/
theorem Step.Awaits.borneOut {dialog : DialogGraph} {node : NodeId} {step : Step}
    {wait : Dialog.Wait} (awaits : step.Awaits dialog node wait)
    (borne : wait.BorneOut dialog node) : step.BorneOut dialog node := by
  cases awaits with
  | @reveal line known next budget speaker =>
    obtain ⟨other, shown, found, speaks, -, more⟩ := borne
    have same : line = other := by
      have kinds : DialogNode.line line = .line other := Option.some.inj (known.symm.trans found)
      exact DialogNode.line.inj kinds
    have inside : next < line.text.toList.length := by
      by_contra past
      exact more (List.drop_eq_nil_of_le (Nat.le_of_not_lt past))
    exact ⟨line, known, same ▸ speaks, rfl, inside⟩
  | confirm => exact borne
  | choose count selected => exact borne
  | closing remaining => exact borne
  | stalled reason => exact ⟨nofun, fun same => borne (Stall.dialog.inj same)⟩

/-- An interpreter whose registers stand together. -/
structure Integral (interpreter : Interpreter) : Prop where
  /-- Without a dialog there is nothing to be done, and no place. -/
  vacant : interpreter.dialog = none →
    interpreter.step = .idle ∧ interpreter.cursor.current = none
  /-- With a dialog there is a place in its graph, which bears out what is to be done. -/
  placed : ∀ dialog, interpreter.dialog = some dialog → ∃ node,
    interpreter.cursor.current = some node ∧ node < dialog.graph.size ∧
      interpreter.step.BorneOut dialog node

variable {interpreter : Interpreter} {conversation : Conversation}

/-- There is a dialog exactly if there is something to be done. -/
theorem Integral.dialog_eq_none_iff (integral : interpreter.Integral) :
    interpreter.dialog = none ↔ interpreter.step = .idle := by
  refine ⟨fun absent => (integral.vacant absent).1, fun idle => ?_⟩
  cases found : interpreter.dialog with
  | none => rfl
  | some dialog =>
    obtain ⟨node, -, -, borne⟩ := integral.placed dialog found
    rw [idle] at borne
    exact borne.elim

/-- There is something to be done exactly if there is a place. -/
theorem Integral.step_eq_idle_iff (integral : interpreter.Integral) :
    interpreter.step = .idle ↔ interpreter.cursor.current = none := by
  refine ⟨fun idle => (integral.vacant (integral.dialog_eq_none_iff.2 idle)).2, fun lost => ?_⟩
  cases found : interpreter.dialog with
  | none => exact (integral.vacant found).1
  | some dialog =>
    obtain ⟨node, here, -, -⟩ := integral.placed dialog found
    rw [lost] at here
    cases here

/-- What is to be done is never what no node bears out. -/
theorem Integral.step_ne (integral : interpreter.Integral) {step : Step} (busy : step ≠ .idle)
    (stray : ∀ dialog node, ¬step.BorneOut dialog node) : interpreter.step ≠ step := by
  rintro rfl
  cases found : interpreter.dialog with
  | none => exact busy (integral.vacant found).1
  | some dialog =>
    obtain ⟨node, -, -, borne⟩ := integral.placed dialog found
    exact stray dialog node borne

/-- An interpreter that holds the same as an integral conversation is integral. -/
theorem Plays.integral (plays : interpreter.Plays conversation)
    (borneOut : ∀ session, conversation.session = some session →
      session.node < session.dialog.graph.size ∧
        session.wait.BorneOut session.dialog session.node) : interpreter.Integral := by
  cases plays with
  | idle manner requested reported => exact ⟨fun _ => ⟨rfl, rfl⟩, nofun⟩
  | running manner session previous overridden requested reported awaits restores =>
    refine ⟨nofun, fun dialog found => ?_⟩
    obtain rfl : session.dialog = dialog := Option.some.inj found
    obtain ⟨inside, borne⟩ := borneOut session rfl
    exact ⟨session.node, rfl, inside, awaits.borneOut borne⟩

/-- An interpreter is as it is built, but for a request that nobody took, where a conversation is
that holds the same. -/
theorem Plays.asBuilt {config : Config} {requested : Option StateKind}
    (plays : interpreter.Plays conversation)
    (built : conversation = { Conversation.ofConfig config with requested := requested }) :
    interpreter = { ofConfig config with requested := interpreter.requested } := by
  subst built
  cases plays
  rfl

/-- An interpreter that has stalled stays as it is in a tick, asks nothing of the host, and leaves
the flags alone. -/
theorem resume_of_stalled {reason : Stall} (stalled : interpreter.step = .stalled reason)
    (tick : Tick) (animating : Bool) (flags : Flags) :
    interpreter.resume tick animating flags = pure ⟨interpreter, flags, [], .stalled⟩ := by
  obtain ⟨_, _, _, step, _⟩ := interpreter
  obtain rfl : step = .stalled reason := stalled
  rfl

/-- An interpreter of a dialog that has stalled is changed by the commands that end the dialog only,
if a request is taken or not. -/
theorem obey_of_stalled {reason : Stall} (stalled : interpreter.step = .stalled reason)
    (running : interpreter.dialog ≠ none) {command : Command} (kept : command ≠ .abandon)
    (remembered : command ≠ .reset) :
    ∃ requested, interpreter.obey command = { interpreter with requested := requested } := by
  cases command with
  | start dialog music flags =>
    obtain ⟨other, found⟩ := Option.ne_none_iff_exists'.1 running
    have refused : interpreter.start dialog music flags = .error (.alreadyRunning other.name) := by
      unfold start
      rw [found]
    refine ⟨interpreter.requested, ?_⟩
    unfold obey
    dsimp only
    rw [refused]
  | resume tick animating flags =>
    refine ⟨interpreter.requested, ?_⟩
    unfold obey
    dsimp only
    rw [resume_of_stalled stalled]
    rfl
  | abandon => exact absurd rfl kept
  | reset => exact absurd rfl remembered
  | takeRequested => exact ⟨none, rfl⟩

/-- Whatever is asked of an interpreter, it answers as a conversation does, and there is a dialog
exactly if there is something to be done, and exactly if there is a place. The place is then a node
of the dialog's graph that bears out what is to be done: never to enter a node, and nothing because
the place was lost or lies outside. An interpreter that has stalled stays so until the dialog is
broken off or everything is forgotten, and meanwhile a tick changes nothing and asks nothing of the
host. After a turn that ends the dialog, and after a dialog was broken off, the interpreter is as it
was built, but for a request that nobody took. -/
theorem interpreter_integral (config : Config) (commands : List Command) :
    let built := ofConfig config
    let interpreter := built.obeyAll commands
    let asBuilt (requested : Option StateKind) : Interpreter :=
      { built with requested := requested }
    built.replies commands = (Conversation.ofConfig config).replies commands ∧
      (interpreter.dialog = none ↔ interpreter.step = .idle) ∧
      (interpreter.step = .idle ↔ interpreter.cursor.current = none) ∧
      interpreter.step ≠ .enter ∧
      (∀ dialog, interpreter.dialog = some dialog → ∃ node,
        interpreter.cursor.current = some node ∧ node < dialog.graph.size ∧
          interpreter.step.BorneOut dialog node) ∧
      interpreter.step ≠ .stalled .lost ∧
      interpreter.step ≠ .stalled (.dialog .outside) ∧
      (∀ reason, interpreter.step = .stalled reason →
        (∀ tick animating flags,
          interpreter.resume tick animating flags = pure ⟨interpreter, flags, [], .stalled⟩) ∧
        ∀ command, command ≠ .abandon → command ≠ .reset →
          ∃ requested, interpreter.obey command = { interpreter with requested := requested }) ∧
      (∀ dialog music flags turn, interpreter.start dialog music flags = .ok turn →
        turn.value.progress = .done →
          turn.value.interpreter = asBuilt turn.value.interpreter.requested) ∧
      (∀ tick animating flags,
        let turn := (interpreter.resume tick animating flags).value
        turn.progress = .done → turn.interpreter = asBuilt turn.interpreter.requested) ∧
      (interpreter.dialog ≠ none →
        interpreter.abandon.value.1 = asBuilt interpreter.requested) := by
  intro built interpreter asBuilt
  let conversation := (Conversation.ofConfig config).obeyAll commands
  have begun : built.Plays (Conversation.ofConfig config) := .idle _ none false
  obtain ⟨alike, plays⟩ : _ ∧ interpreter.Plays conversation := begun.obeyAll commands
  obtain ⟨borneOut, -, starts, resumes, breaks⟩ : _ ∧ _ :=
    Conversation.conversation_integral config commands
  have integral : interpreter.Integral := plays.integral borneOut
  refine ⟨alike, integral.dialog_eq_none_iff, integral.step_eq_idle_iff,
    integral.step_ne nofun fun _ _ borne => borne, integral.placed,
    integral.step_ne nofun fun _ _ borne => borne.1 rfl,
    integral.step_ne nofun fun _ _ borne => borne.2 rfl, fun reason stalled => ?_,
    fun dialog music flags turn started finished => ?_,
    fun tick animating flags finished => ?_, fun running => ?_⟩
  · have running : interpreter.dialog ≠ none := by
      rw [Ne, integral.dialog_eq_none_iff, stalled]
      exact nofun
    exact ⟨resume_of_stalled stalled, fun command => obey_of_stalled stalled running⟩
  · obtain ⟨error, refused, -⟩ | ⟨turn, other, accepted, also, agree⟩ :=
      start_agrees plays dialog music flags
    · rw [refused] at started
      cases started
    · obtain rfl := Except.ok.inj (accepted.symm.trans started)
      have ended := starts dialog music flags other also (agree.value.progress ▸ finished)
      exact agree.value.plays.asBuilt ended
  · have agree := resume_agrees plays tick animating flags
    have ended := resumes tick animating flags (agree.value.progress ▸ finished)
    exact agree.value.plays.asBuilt ended
  · have held : conversation.isRunning = true := by
      rw [← plays.views.1]
      exact Option.isSome_iff_ne_none.2 running
    have after := (abandon_agrees plays).value.1
    have same : interpreter.abandon.value.1.requested = interpreter.requested := by
      unfold abandon
      split <;> rfl
    rw [← same]
    exact after.asBuilt (breaks held)

/-- A choice of two ways, the second of which leads nowhere. -/
def alley : DialogGraph :=
  ⟨⟨"alley",
    [⟨.start, [⟨Port.exit, some 1⟩]⟩,
      ⟨.branch .player [⟨"Back", none, 0, []⟩, ⟨"Ahead", none, 0, [.emit "ahead"]⟩],
        [⟨Port.option 0, some 2⟩]⟩,
      ⟨.finish, []⟩]⟩, none⟩

/-- A player who goes on ahead stands in the alley for good. Only breaking off the dialog helps, and
leaves the interpreter as it was built. -/
theorem interpreter_integral_alley :
    let built := ofConfig .standard
    let ahead : Command := .resume (.press ⟨true, false, true⟩) false ∅
    let interpreter := built.obeyAll [.start alley none ∅, ahead]
    interpreter.dialog = some alley ∧ interpreter.cursor.current = some 1 ∧
      interpreter.step = .stalled (.dialog (.portUnwired (Port.option 1))) ∧
      (∀ tick animating flags,
        interpreter.resume tick animating flags = pure ⟨interpreter, flags, [], .stalled⟩) ∧
      interpreter.abandon.value.1 = built := by
  intro built ahead interpreter
  have running : interpreter.dialog = some alley := rfl
  have stalled : interpreter.step = .stalled (.dialog (.portUnwired (Port.option 1))) := rfl
  obtain ⟨-, -, -, -, -, -, -, stays, -, -, breaks⟩ :=
    interpreter_integral .standard [.start alley none ∅, ahead]
  have broken : interpreter.abandon.value.1 = built :=
    breaks (running ▸ Option.some_ne_none alley)
  exact ⟨running, rfl, stalled, (stays _ stalled).1, broken⟩

end Narrative.Interpreter
