import Narrative.Proofs.Conversation.Timing
import Narrative.Proofs.Dialog.Portraits

/-!
# The portraits of a conversation

A conversation starts with the portraits of the player and of the first character that speaks, and
each line brings up its speaker. From the start to the end at most one character is shown, the one
that the session remembers, and nobody talks but the speaker of a line that is being revealed.
-/

namespace Narrative

open Dialog (Manner Memory Stop Wait)

/-- A conversation that has asked for some calls since it started a dialog: they show one character
at a time. As long as the dialog is running, the session remembers this character, and nobody talks
but the speaker of a line that is being revealed. -/
structure Conversation.Staged (dialog : DialogGraph) (calls : List Call)
    (conversation : Conversation) : Prop where
  /-- One character is shown at a time. -/
  portraits : ∃ character, Call.Portrays calls character
  /-- The session goes by the stage. -/
  stages : ∀ session, conversation.session = some session → session.dialog = dialog ∧
    Call.Stages calls session.character session.wait.voice?

/-- A turn that leaves the stage in order after some earlier calls. -/
def Turn.Staged (dialog : DialogGraph) (earlier : List Call) (turn : Turn) : Prop :=
  turn.conversation.Staged dialog (earlier ++ turn.calls)

/-- The calls of a turn are as many in a row. -/
theorem Turn.Staged.after {dialog : DialogGraph} {earlier calls : List Call} {turn : Turn}
    (staged : turn.Staged dialog (earlier ++ calls)) :
    (turn.after calls).Staged dialog earlier := by
  unfold Staged at staged ⊢
  rwa [List.append_assoc] at staged

namespace Conversation

variable {conversation : Conversation} {session : Session} {dialog : DialogGraph}
  {earlier : List Call} {flags : Flags}

/-- The end of a dialog leaves the stage as it is. -/
theorem finish_staged {character : Option Speaker} (stages : Call.Stages earlier character none) :
    (finish conversation session flags).value.Staged dialog earlier := by
  have closed : Call.Stages (earlier ++ .dialogEnd :: restoreCalls session.restore) character
      none := by
    refine stages.scenery ?_
    obtain _ | _ | cue := session.restore <;> rfl
  exact ⟨⟨character, closed.portraits⟩, fun _ running => (by cases running)⟩

/-- Where a walk came to is taken over. -/
theorem settle_staged {stop : Stop}
    (stages : Call.Stages (earlier ++ stop.calls) stop.character (stop.wait.bind Wait.voice?)) :
    (settle conversation session stop).value.Staged session.dialog earlier := by
  obtain ⟨node, character, wait, memory, calls⟩ := stop
  cases wait with
  | none => exact Turn.Staged.after (finish_staged stages)
  | some wait =>
    refine ⟨⟨character, stages.portraits⟩, fun after running => ?_⟩
    obtain rfl := Option.some.inj running
    exact ⟨rfl, stages⟩

/-- Going on at a node while nobody talks. -/
theorem goTo_staged (stages : Call.Stages earlier session.character none) (next : NodeId)
    (memory : Memory) :
    (goTo conversation session next memory).value.Staged session.dialog earlier :=
  settle_staged (stages.arrive (Dialog.walk_arrives ..))

/-- Keeping waiting. -/
theorem keep_staged {wait : Wait} {calls : List Call}
    (stages : Call.Stages (earlier ++ calls) session.character wait.voice?) :
    (keep conversation session wait flags calls).Staged session.dialog earlier := by
  refine ⟨⟨_, stages.portraits⟩, fun after running => ?_⟩
  obtain rfl := Option.some.inj running
  exact ⟨rfl, stages⟩

/-- Staying at a node for good while nobody talks. -/
theorem stall_staged (stages : Call.Stages earlier session.character none)
    (reason : Dialog.Stall) :
    (stall conversation session flags reason).value.Staged session.dialog earlier := by
  let stop : Stop :=
    ⟨session.node, session.character, some (.stalled reason), conversation.memory flags, []⟩
  have still : Call.Stages (earlier ++ stop.calls) stop.character (stop.wait.bind Wait.voice?) :=
    stages.scenery rfl
  exact settle_staged still

/-- Choosing an option while nobody talks. -/
theorem choose_staged (stages : Call.Stages earlier session.character none) (index : Nat) :
    (choose conversation session index flags).value.Staged session.dialog earlier := by
  unfold choose
  split
  · exact stall_staged stages _
  · dsimp only
    rw [Logged.value_bind, Logged.value_bind, Dialog.calls_applyEffects]
    exact Turn.Staged.after (goTo_staged (stages.told _) _ _)

/-- Going on with a running dialog for one tick. -/
theorem resumeSession_staged
    (stages : Call.Stages earlier session.character session.wait.voice?) (tick : Tick)
    (animating : Bool) (flags : Flags) :
    (resumeSession conversation session tick animating flags).value.Staged session.dialog
      earlier := by
  unfold resumeSession
  dsimp only
  -- Nobody talks but while a line is being revealed, and such a line is not left.
  cases waiting : session.wait with
  | reveal remaining budget speaker =>
    rw [waiting] at stages
    exact keep_staged (stages.revealLine ..)
  | confirm =>
    rw [waiting] at stages
    dsimp only
    split
    · split
      · exact Turn.Staged.after (stall_staged (stages.scenery rfl) _)
      · exact Turn.Staged.after (goTo_staged (stages.scenery rfl) _ _)
    · exact keep_staged (stages.scenery rfl)
  | choose count selected =>
    rw [waiting] at stages
    have moved : Call.Stages (earlier ++
        (moveHighlight conversation.manner.sounds tick.input count selected).2)
        session.character none := by
      refine stages.scenery ?_
      unfold moveHighlight
      split
      · rfl
      · split <;> rfl
    dsimp only
    split
    · refine Turn.Staged.after (choose_staged ?_ _)
      rw [← List.append_assoc]
      exact moved.scenery rfl
    · exact keep_staged moved
  | closing remaining =>
    rw [waiting] at stages
    dsimp only
    split
    · exact finish_staged stages
    · exact keep_staged (stages.scenery rfl)
  | stalled reason =>
    rw [waiting] at stages
    exact keep_staged (stages.scenery rfl)

/-- Going on for one tick. -/
theorem turn_staged (staged : conversation.Staged dialog earlier) (moment : Moment) :
    (conversation.turn moment).Staged dialog earlier := by
  unfold turn Conversation.resume
  cases running : conversation.session with
  | some session =>
    obtain ⟨rfl, stages⟩ := staged.stages session running
    exact resumeSession_staged stages ..
  | none =>
    have kept : ∃ character, Call.Portrays (earlier ++ []) character := by
      rw [List.append_nil]
      exact staged.portraits
    dsimp only
    split <;> exact ⟨kept, fun _ running => (by cases running)⟩

/-- The first character that speaks is neither the narrator nor the player. -/
theorem exists_name_of_firstCharacter? {speaker : Speaker}
    (first : dialog.firstCharacter? = some speaker) : ∃ name, speaker = .character name := by
  obtain ⟨node, -, speaks⟩ := List.exists_of_findSome?_eq_some first
  split at speaks
  · split at speaks
    · next line _ character =>
      obtain rfl := Option.some.inj speaks
      cases other : line.speaker with
      | character name => exact ⟨name, rfl⟩
      | _ =>
        rw [other] at character
        cases character
    · cases speaks
  · cases speaks

/-- The opening of a dialog shows the player and the first character that speaks, silent both. -/
theorem openingCalls_stages (dialog : DialogGraph) :
    Call.Stages (openingCalls dialog) dialog.firstCharacter? none := by
  -- The player is told not to talk, and so is the character, though neither does.
  have music : Call.Stages (dialog.music.map Call.playMusic).toList none none := by
    refine Call.Stages.blank.scenery ?_
    cases dialog.music <;> rfl
  have shown : Call.Stages ((dialog.music.map Call.playMusic).toList ++ [.showSpeaker .player])
      none none := music.other (fun _ => rfl) fun _ => rfl
  have player : Call.Stages ((dialog.music.map Call.playMusic).toList ++
      [.showSpeaker .player, .setTalking .player false]) none none := by
    rw [List.append_cons]
    exact shown.stop nofun
  unfold openingCalls
  cases first : dialog.firstCharacter? with
  | none =>
    rw [List.append_nil]
    exact player
  | some speaker =>
    obtain ⟨name, rfl⟩ := exists_name_of_firstCharacter? first
    dsimp only
    rw [List.append_cons]
    exact (player.appear nofun).stop nofun

/-- Starting a dialog. -/
theorem start_staged {music : Option String} {turn : Logged Turn}
    (started : conversation.start dialog music flags = .ok turn) :
    turn.value.Staged dialog [] := by
  obtain ⟨-, root, -, same⟩ := start_ok started
  let session : Session :=
    ⟨dialog, root, .confirm, dialog.firstCharacter?, dialog.music.map fun _ => music⟩
  have opens : Call.Stages ([] ++ openingCalls dialog) session.character none :=
    openingCalls_stages dialog
  rw [same]
  exact Turn.Staged.after (goTo_staged opens root _)

/-- Going on for some moments. -/
theorem through_staged (staged : conversation.Staged dialog earlier) (moments : List Moment) :
    (conversation.through moments).Staged dialog (earlier ++ conversation.asks moments) := by
  induction moments generalizing conversation earlier with
  | nil =>
    rw [asks, List.append_nil]
    exact staged
  | cons moment rest ih =>
    have onward := ih (turn_staged staged moment)
    rw [List.append_assoc] at onward
    exact onward

/-- Moments keep a conversation integral. -/
theorem Integral.through {manner : Manner} (integral : conversation.Integral manner)
    (moments : List Moment) : (conversation.through moments).Integral manner := by
  induction moments generalizing conversation with
  | nil => exact integral
  | cons moment rest ih =>
    exact ih (resume_integral integral moment.tick moment.animating moment.flags).conversation

/-- Who talks while a dialog waits has the line on which it stands, and that line is being
revealed. -/
theorem voice?_eq_some_iff {wait : Wait} {node : NodeId} (borne : wait.BorneOut dialog node)
    (speaker : Speaker) : wait.voice? = some speaker ↔ speaker ≠ .narrator ∧
      ∃ line remaining budget, dialog.graph.kind? node = some (.line line) ∧
        line.speaker = speaker ∧ wait = .reveal remaining budget speaker := by
  cases wait with
  | reveal remaining budget other =>
    obtain ⟨line, shown, known, rfl, -, -⟩ := borne
    change (if line.speaker = .narrator then none else some line.speaker) = some speaker ↔ _
    split
    · next narrator =>
      refine ⟨nofun, ?_⟩
      rintro ⟨speaks, _, _, _, -, -, same⟩
      obtain ⟨-, -, rfl⟩ := Wait.reveal.inj same
      exact absurd narrator speaks
    · next speaks =>
      constructor
      · intro same
        obtain rfl := Option.some.inj same
        exact ⟨speaks, line, remaining, budget, known, rfl, rfl⟩
      · rintro ⟨-, _, _, _, -, -, same⟩
        obtain ⟨-, -, rfl⟩ := Wait.reveal.inj same
        rfl
  | _ => exact ⟨nofun, nofun⟩

/-- From the start of a dialog, which a recorder hears call by call, and whatever the moments bring
with which it goes on: at no time are two characters shown, and when one is brought up, nobody else
is shown any more. While the dialog is running, the character that is shown is the one that the
session remembers, and nobody talks but the speaker of the line on which the dialog stands, as long
as this line is being revealed and the speaker is not the narrator. -/
theorem portraits_stay_exclusive (conversation : Conversation) (dialog : DialogGraph)
    (flags : Flags) (host : Recorder) (turn : Logged Turn)
    (started : conversation.start dialog (Host.music host) flags = .ok turn)
    (moments : List Moment) :
    let after := turn.value.conversation.through moments
    let calls := turn.value.calls ++ turn.value.conversation.asks moments
    (Host.performAll host calls).calls = host.calls ++ calls ∧
    (∀ earlier, earlier <+: calls → ∀ first second : String,
      (Speaker.character first).Shown earlier → (Speaker.character second).Shown earlier →
        first = second) ∧
    (∀ earlier first second, earlier ++ [.showSpeaker (.character second)] <+: calls →
      (Speaker.character first).Shown earlier → first = second) ∧
    ∀ session, after.session = some session →
      session.dialog = dialog ∧
      (∀ name, (Speaker.character name).Shown calls ↔
        session.character = some (.character name)) ∧
      ∀ speaker : Speaker, speaker.Talks calls ↔ speaker ≠ .narrator ∧
        ∃ line remaining budget, dialog.graph.kind? session.node = some (.line line) ∧
          line.speaker = speaker ∧ session.wait = .reveal remaining budget speaker := by
  intro after calls
  have staged : after.Staged dialog calls := through_staged (start_staged started) moments
  obtain ⟨character, portrays⟩ := staged.portraits
  refine ⟨host.calls_performAll calls, fun earlier before first second => ?_,
    fun earlier first second before => ?_, fun session running => ?_⟩
  · obtain ⟨_, up⟩ := portrays.of_prefix before
    exact up.unique
  · obtain ⟨_, up⟩ := portrays.of_prefix before
    exact up.alone
  · obtain ⟨idle, -⟩ := start_ok started
    have integral : after.Integral conversation.manner :=
      (start_integral (integral_of_idle rfl idle) started).conversation.through moments
    obtain ⟨rfl, stages⟩ := staged.stages session running
    exact ⟨rfl, stages.portraits.shown_iff, fun speaker => (stages.voices speaker).trans
      (voice?_eq_some_iff (integral.session session running).wait speaker)⟩

/-- One character asks for another, and the narrator has the last word. -/
def meeting : DialogGraph :=
  ⟨⟨"meeting",
    [⟨.start, [⟨Port.exit, some 1⟩]⟩,
      ⟨.line ⟨.character "Ann", "Bob?", none⟩, [⟨Port.exit, some 2⟩]⟩,
      ⟨.line ⟨.character "Bob", "Here.", none⟩, [⟨Port.exit, some 3⟩]⟩,
      ⟨.line ⟨.narrator, "They meet.", none⟩, [⟨Port.exit, some 4⟩]⟩,
      ⟨.finish, []⟩]⟩, none⟩

/-- When the second line of the meeting is being revealed, its speaker is shown and talks, and the
one of the first line is neither shown nor talking. -/
theorem portraits_stay_exclusive_meeting :
    let moments : List Moment :=
      [⟨.wait (.ofSeconds 1), false, ∅⟩, ⟨.press ⟨true, false, false⟩, false, ∅⟩]
    ∃ turn, (ofConfig .standard).start meeting none ∅ = .ok turn ∧
      let calls := turn.value.calls ++ turn.value.conversation.asks moments
      (Speaker.character "Bob").Shown calls ∧ ¬(Speaker.character "Ann").Shown calls ∧
      (Speaker.character "Bob").Talks calls ∧ ¬(Speaker.character "Ann").Talks calls := by
  intro moments
  obtain ⟨turn, started, session, running, here, shown, remaining, budget, waits⟩ : ∃ turn,
      (ofConfig .standard).start meeting none ∅ = .ok turn ∧
        ∃ session, (turn.value.conversation.through moments).session = some session ∧
          session.node = 2 ∧ session.character = some (.character "Bob") ∧
          ∃ remaining budget, session.wait = .reveal remaining budget (.character "Bob") :=
    ⟨_, rfl, _, rfl, rfl, rfl, _, _, rfl⟩
  obtain ⟨-, -, -, plays⟩ :=
    portraits_stay_exclusive (ofConfig .standard) meeting ∅ .empty turn started moments
  obtain ⟨-, portraits, voices⟩ := plays session running
  have known : meeting.graph.kind? session.node =
      some (.line ⟨.character "Bob", "Here.", none⟩) := by
    rw [here]
    rfl
  refine ⟨turn, started, (portraits "Bob").2 shown, fun ann => ?_,
    (voices _).2 ⟨by decide, _, remaining, budget, known, rfl, waits⟩, fun ann => ?_⟩
  · exact absurd (shown.symm.trans ((portraits "Ann").1 ann)) (by decide)
  · obtain ⟨-, _, _, _, -, -, same⟩ := (voices (.character "Ann")).1 ann
    exact absurd (Wait.reveal.inj (waits.symm.trans same)).2.2 (by decide)

end Conversation

end Narrative
