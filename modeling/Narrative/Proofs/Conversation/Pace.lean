import Narrative.Proofs.Conversation.Performance
import Narrative.Proofs.Conversation.Tale

/-!
# The pace of a performance

Two performances of one dialog may take their time differently. Beat by beat they can hardly be
compared, since one shows a letter where the other is lines ahead; but each of their tales goes on
in the one way that the choices of the player allow. Once both have come to their end they have
told the same.
-/

namespace Narrative

open Dialog (Manner Memory Stop Wait)

/-- A turn that reports how far the dialog has come. -/
def Turn.Reports (turn : Turn) : Prop :=
  turn.progress = turn.conversation.session.elim .done fun session => session.wait.progress

/-- What the host is asked to do does not matter to the report. -/
theorem Turn.Reports.after {turn : Turn} (reports : turn.Reports) (calls : List Call) :
    (turn.after calls).Reports :=
  reports

namespace Conversation

/-- Where a walk comes to is reported. -/
theorem settle_reports (conversation : Conversation) (session : Session) (stop : Stop) :
    (settle conversation session stop).value.Reports := by
  unfold settle
  split
  · rfl
  · rfl

/-- Going on at another node is reported. -/
theorem goTo_reports (conversation : Conversation) (session : Session) (node : NodeId)
    (memory : Memory) : (goTo conversation session node memory).value.Reports :=
  settle_reports ..

/-- Staying for good is reported. -/
theorem stall_reports (conversation : Conversation) (session : Session) (flags : Flags)
    (reason : Dialog.Stall) : (stall conversation session flags reason).value.Reports :=
  settle_reports ..

/-- A choice is reported. -/
theorem choose_reports (conversation : Conversation) (session : Session) (index : Nat)
    (flags : Flags) : (choose conversation session index flags).value.Reports := by
  unfold choose
  cases session.dialog.graph.connected? session.node (Port.option index) with
  | none => exact stall_reports ..
  | some next => exact (goTo_reports ..).after _

/-- A running dialog reports how far it has come. -/
theorem resumeSession_reports (conversation : Conversation) (session : Session) (tick : Tick)
    (animating : Bool) (flags : Flags) :
    (resumeSession conversation session tick animating flags).value.Reports := by
  unfold resumeSession
  dsimp only
  cases session.wait with
  | confirm =>
    dsimp only
    split
    · cases session.dialog.graph.connected? session.node Port.exit with
      | none => exact (stall_reports ..).after _
      | some next => exact (goTo_reports ..).after _
    · rfl
  | choose count selected =>
    dsimp only
    split
    · exact (choose_reports ..).after _
    · rfl
  | closing remaining =>
    dsimp only
    split <;> rfl
  | _ => rfl

end Conversation

/-- What a tale comes to with some choices of the player. It goes on with each line, and with each
branch by the next choice, until the dialog is over or cannot go on. -/
inductive Tale.Unfolds : Tale → List Nat → Tale → Prop where
  /-- The dialog is over. -/
  | done {tale : Tale} (ended : tale.session = none) : Unfolds tale [] tale
  /-- The dialog cannot go on. -/
  | stalled {tale : Tale} {session : Session} {reason : Dialog.Stall}
      (running : tale.session = some session) (waiting : session.wait = .stalled reason) :
      Unfolds tale [] tale
  /-- The dialog goes on after a line. -/
  | line {tale last : Tale} {session : Session} {choices : List Nat}
      (running : tale.session = some session) (waiting : session.wait = .confirm)
      (rest : Unfolds ((session.goOn tale.memory).after tale.calls) choices last) :
      Unfolds tale choices last
  /-- The dialog goes on by an option. -/
  | choice {tale last : Tale} {session : Session} {count index : Nat} {choices : List Nat}
      (running : tale.session = some session) (waiting : session.wait = .choose count 0)
      (rest : Unfolds (((session.goOnBy index tale.memory).after [.hideOptions]).after tale.calls)
        choices last) :
      Unfolds tale (index :: choices) last

/-- A tale comes to one end only with the same choices. -/
theorem Tale.Unfolds.unique {tale first second : Tale} {choices : List Nat}
    (unfolds : tale.Unfolds choices first) (other : tale.Unfolds choices second) :
    first = second := by
  induction unfolds with
  | done ended =>
    cases other with
    | done => rfl
    | stalled => rfl
    | line running => cases ended.symm.trans running
  | stalled running waiting =>
    cases other with
    | done => rfl
    | stalled => rfl
    | line found confirm =>
      obtain rfl := Option.some.inj (running.symm.trans found)
      cases waiting.symm.trans confirm
  | line running waiting _ ih =>
    cases other with
    | done ended => cases ended.symm.trans running
    | stalled found stalled =>
      obtain rfl := Option.some.inj (running.symm.trans found)
      cases waiting.symm.trans stalled
    | line found _ rest =>
      obtain rfl := Option.some.inj (running.symm.trans found)
      exact ih rest
    | choice found choose =>
      obtain rfl := Option.some.inj (running.symm.trans found)
      cases waiting.symm.trans choose
  | choice running waiting _ ih =>
    cases other with
    | line found confirm =>
      obtain rfl := Option.some.inj (running.symm.trans found)
      cases waiting.symm.trans confirm
    | choice found _ rest =>
      obtain rfl := Option.some.inj (running.symm.trans found)
      exact ih rest

/-- What was told before other calls was told before a tale that they begin. -/
theorem Tale.after_after (told : Tale) (first second : List Call) :
    (told.after second).after first = told.after (first ++ second) :=
  congrArg (Tale.mk told.session told.memory) (List.append_assoc ..).symm

/-- What was told before a tale does not matter to how it goes on. -/
theorem Tale.Unfolds.of_after {opening last : Tale} {earlier : List Call} {choices : List Nat}
    (unfolds : (opening.after earlier).Unfolds choices last) :
    ∃ rest, opening.Unfolds choices rest ∧ last = rest.after earlier := by
  generalize begins : opening.after earlier = tale at unfolds
  induction unfolds generalizing opening with
  | done ended =>
    subst begins
    exact ⟨opening, .done ended, rfl⟩
  | stalled running waiting =>
    subst begins
    exact ⟨opening, .stalled running waiting, rfl⟩
  | line running waiting _ ih =>
    subst begins
    obtain ⟨rest, onward, ends⟩ := ih (Tale.after_after _ earlier opening.calls)
    exact ⟨rest, .line running waiting onward, ends⟩
  | choice running waiting _ ih =>
    subst begins
    obtain ⟨rest, onward, ends⟩ := ih (Tale.after_after _ earlier opening.calls)
    exact ⟨rest, .choice running waiting onward, ends⟩

namespace Performance

variable {performance opening : Performance}

/-- The tale of a performance. -/
def tale (performance : Performance) : Tale :=
  performance.conversation.tale performance.flags performance.host.calls

/-- The option that the player confirms in a beat. -/
def choice? (performance : Performance) (beat : Beat) : Option Nat :=
  if beat.confirms then
    match performance.wait? with
    | some (.choose count selected) =>
      some (Conversation.moveHighlight performance.conversation.manner.sounds beat.tick.input count
        selected).1
    | _ => none
  else none

/-- The options that the player confirms in some beats. -/
def choices (performance : Performance) : List Beat → List Nat
  | [] => []
  | beat :: rest => (performance.choice? beat).toList ++ (performance.resume beat).choices rest

/-- Whether beats play a performance to its end: it waits before each of them, and after them it is
over or cannot go on. -/
def Complete (performance : Performance) : List Beat → Prop
  | [] => performance.progress = .done ∨ performance.progress = .stalled
  | beat :: rest => performance.progress = .suspended ∧ (performance.resume beat).Complete rest

/-- Whether beats play a performance to its end is seen by playing them. -/
def decidableComplete (performance : Performance) : (beats : List Beat) →
    Decidable (performance.Complete beats)
  | [] =>
    inferInstanceAs (Decidable (performance.progress = .done ∨ performance.progress = .stalled))
  | beat :: rest =>
    let _ := (performance.resume beat).decidableComplete rest
    inferInstanceAs
      (Decidable (performance.progress = .suspended ∧ (performance.resume beat).Complete rest))

instance (performance : Performance) (beats : List Beat) : Decidable (performance.Complete beats) :=
  performance.decidableComplete beats

/-- A performance that reports how far the dialog has come. -/
def Reports (performance : Performance) : Prop :=
  performance.progress =
    performance.conversation.session.elim .done fun session => session.wait.progress

/-- The tale of a performance after a turn. -/
theorem tale_take (host : Recorder) (turn : Turn) :
    (take host turn).tale = turn.tale.after (host.calls.filter Call.isTold) := by
  unfold tale
  rw [calls_take]
  unfold Turn.tale Conversation.tale Tale.after
  rw [List.filter_append, List.append_assoc]
  rfl

/-- A performance starts with a report. -/
theorem start_reports {conversation : Conversation} {dialog : DialogGraph} {flags : Flags}
    {host : Recorder} (started : start conversation dialog flags host = .ok opening) :
    opening.Reports := by
  obtain ⟨turn, begun, rfl⟩ := start_ok started
  obtain ⟨-, node, -, same⟩ := Conversation.start_ok begun
  have reports : turn.value.Reports := same ▸ (Conversation.goTo_reports ..).after _
  exact reports

/-- Every beat of a running dialog is followed by a report. -/
theorem resume_reports {session : Session}
    (running : performance.conversation.session = some session) (beat : Beat) :
    (performance.resume beat).Reports := by
  have reports := Conversation.resumeSession_reports performance.conversation session beat.tick
    beat.animating performance.flags
  have resumed : performance.conversation.resume beat.tick beat.animating performance.flags =
      Conversation.resumeSession performance.conversation session beat.tick beat.animating
        performance.flags := by
    unfold Conversation.resume
    rw [running]
  rw [← resumed] at reports
  exact reports

/-- A beat goes on with the tale if the player confirms a line or an option, and leaves it as it is
otherwise. -/
theorem tale_resume {session : Session}
    (running : performance.conversation.session = some session) (beat : Beat) :
    (performance.resume beat).tale =
      if beat.confirms then
        match session.wait with
        | .confirm => (session.goOn performance.memory).after performance.tale.calls
        | .choose count selected =>
          ((session.goOnBy (Conversation.moveHighlight performance.conversation.manner.sounds
            beat.tick.input count selected).1 performance.memory).after [.hideOptions]).after
              performance.tale.calls
        | _ => performance.tale
      else performance.tale := by
  have resumed : (performance.resume beat).tale =
      (Conversation.resumeSession performance.conversation session beat.tick beat.animating
        performance.flags).value.tale.after (performance.host.calls.filter Call.isTold) := by
    refine (tale_take ..).trans ?_
    unfold Conversation.resume
    rw [running]
    rfl
  have told (silent : session.untold = []) :
      performance.tale.calls = performance.host.calls.filter Call.isTold := by
    change _ ++ performance.conversation.session.elim [] Session.untold = _
    rw [running]
    exact (congrArg _ silent).trans (List.append_nil _)
  rw [resumed, Conversation.tale_resumeSession running]
  change Tale.after _ (if beat.confirms then _ else _) = _
  split
  · cases waiting : session.wait with
    | confirm =>
      rw [told (by unfold Session.untold; rw [waiting]; rfl)]
      rfl
    | choose count selected =>
      rw [told (by unfold Session.untold; rw [waiting]; rfl)]
      rfl
    | _ => rfl
  · rfl

/-- A beat with which the tale does not go on. -/
theorem choice?_of_still {session : Session}
    (running : performance.conversation.session = some session) {beat : Beat}
    (still : beat.confirms = false ∨ ∀ count selected, session.wait ≠ .choose count selected) :
    performance.choice? beat = none := by
  unfold choice? wait?
  rw [running]
  obtain ignored | elsewhere := still
  · rw [ignored]
    rfl
  · split
    · split
      · next waits => exact absurd (Option.some.inj waits) (elsewhere _ _)
      · rfl
    · rfl

/-- A performance that waits has a running dialog. -/
theorem Reports.running (reports : performance.Reports)
    (suspended : performance.progress = .suspended) :
    ∃ session, performance.conversation.session = some session := by
  unfold Reports at reports
  cases running : performance.conversation.session with
  | none =>
    rw [running] at reports
    cases suspended.symm.trans reports
  | some session => exact ⟨session, rfl⟩

/-- A performance that has come to its end has no dialog any more, or one that cannot go on. -/
theorem Reports.ended (reports : performance.Reports)
    (ended : performance.progress = .done ∨ performance.progress = .stalled) :
    performance.progress = .done ∧ performance.conversation.session = none ∨
      performance.progress = .stalled ∧ ∃ session reason,
        performance.conversation.session = some session ∧ session.wait = .stalled reason := by
  unfold Reports at reports
  cases running : performance.conversation.session with
  | none =>
    rw [running] at reports
    exact .inl ⟨reports, rfl⟩
  | some session =>
    rw [running] at reports
    change performance.progress = session.wait.progress at reports
    cases waiting : session.wait with
    | stalled reason =>
      rw [waiting] at reports
      exact .inr ⟨reports, session, reason, rfl, waiting⟩
    | _ =>
      rw [waiting] at reports
      obtain done | stalled := ended
      · cases reports.symm.trans done
      · cases reports.symm.trans stalled

/-- What a performance with beats to its end tells is what its tale comes to with the choices that
the player confirms. -/
theorem tale_unfolds {beats : List Beat} (reports : performance.Reports)
    (complete : performance.Complete beats) :
    performance.tale.Unfolds (performance.choices beats) (performance.play beats).tale := by
  induction beats generalizing performance with
  | nil =>
    obtain ⟨-, idle⟩ | ⟨-, session, reason, running, waiting⟩ := reports.ended complete
    · exact .done (congrArg (Option.bind · Session.hasty?) idle)
    · have heard : performance.tale.session = session.hasty? :=
        congrArg (Option.bind · Session.hasty?) running
      unfold Session.hasty? at heard
      rw [waiting] at heard
      exact .stalled heard rfl
  | cons beat rest ih =>
    obtain ⟨suspended, complete⟩ := complete
    obtain ⟨session, running⟩ := reports.running suspended
    have goes := ih (resume_reports running beat) complete
    have heard : performance.tale.session = session.hasty? :=
      congrArg (Option.bind · Session.hasty?) running
    have told := tale_resume running beat
    -- A hasty listener does not notice a beat with which the tale does not go on.
    have still (kept : (performance.resume beat).tale = performance.tale)
        (silent : beat.confirms = false ∨ ∀ count selected,
          session.wait ≠ .choose count selected) :
        performance.tale.Unfolds (performance.choices (beat :: rest))
          (performance.play (beat :: rest)).tale := by
      unfold choices
      rw [choice?_of_still running silent, ← kept]
      exact goes
    cases confirms : beat.confirms with
    | false =>
      rw [confirms] at told
      exact still told (.inl confirms)
    | true =>
      rw [if_pos confirms] at told
      cases waiting : session.wait with
      | confirm =>
        unfold Session.hasty? at heard
        rw [waiting] at told heard
        unfold choices
        rw [choice?_of_still running (.inr fun _ _ => waiting ▸ nofun)]
        rw [told] at goes
        exact .line heard rfl goes
      | choose count selected =>
        unfold Session.hasty? at heard
        rw [waiting] at told heard
        have chosen : performance.choice? beat = some (Conversation.moveHighlight
            performance.conversation.manner.sounds beat.tick.input count selected).1 := by
          unfold choice? wait?
          rw [if_pos confirms, running, Option.map_some, waiting]
        unfold choices
        rw [chosen]
        rw [told] at goes
        exact .choice heard rfl goes
      | _ =>
        rw [waiting] at told
        exact still told (.inr fun _ _ => waiting ▸ nofun)

/-- At the end of a performance the tale says all: how far the dialog has come, and what was
told. -/
theorem tale_says {beats : List Beat} (reports : performance.Reports)
    (complete : performance.Complete beats) :
    let last := performance.play beats
    last.progress = last.tale.session.elim .done (fun _ => .stalled) ∧
      last.host.calls.filter Call.isTold = last.tale.calls := by
  induction beats generalizing performance with
  | nil =>
    change performance.progress = (performance.conversation.session.bind _).elim _ _ ∧
      _ = _ ++ performance.conversation.session.elim [] Session.untold
    obtain ⟨done, idle⟩ | ⟨stalled, session, reason, running, waiting⟩ := reports.ended complete
    · rw [idle]
      exact ⟨done, (List.append_nil _).symm⟩
    · rw [running]
      dsimp only [Option.bind, Option.elim]
      unfold Session.hasty? Session.untold
      rw [waiting]
      exact ⟨stalled, (List.append_nil _).symm⟩
  | cons beat rest ih =>
    obtain ⟨suspended, complete⟩ := complete
    obtain ⟨session, running⟩ := reports.running suspended
    exact ih (resume_reports running beat) complete

/-- Dialogs open with the same tale, whatever the manner, if the same music plays. -/
theorem tale_start {first second : Conversation} {dialog : DialogGraph} {flags : Flags}
    {host other : Recorder} {firstOpening secondOpening : Performance}
    (requested : first.requested = second.requested) (music : host.music = other.music)
    (firstStarted : start first dialog flags host = .ok firstOpening)
    (secondStarted : start second dialog flags other = .ok secondOpening) :
    ∃ opened : Tale, firstOpening.tale = opened.after (host.calls.filter Call.isTold) ∧
      secondOpening.tale = opened.after (other.calls.filter Call.isTold) := by
  obtain ⟨firstTurn, firstBegun, rfl⟩ := start_ok firstStarted
  obtain ⟨secondTurn, secondBegun, rfl⟩ := start_ok secondStarted
  obtain ⟨node, begins, firstTold⟩ := Conversation.tale_start firstBegun
  obtain ⟨_, same, secondTold⟩ := Conversation.tale_start secondBegun
  obtain rfl := Except.ok.inj (begins.symm.trans same)
  have memory : first.memory flags = second.memory flags := congrArg (Memory.mk flags) requested
  refine ⟨firstTurn.value.tale, tale_take .., ?_⟩
  rw [tale_take, firstTold, secondTold, memory, music]

/-- The pace does not change the tale. Two performances of a dialog, in any two manners and with
whatever ticks, idle beats, moves of the highlight and illustrations in motion, come to the same end
if both are played to their end and the player confirms the same options: the dialog is over in both
or cannot go on in both, the story remembers the same, and what the hosts are asked for differs by
nothing but sounds and highlights. -/
theorem pace_keeps_tale {first second : Conversation} {dialog : DialogGraph} {flags : Flags}
    {host other : Recorder} {firstOpening secondOpening : Performance}
    {firstBeats secondBeats : List Beat} (requested : first.requested = second.requested)
    (music : host.music = other.music)
    (firstStarted : start first dialog flags host = .ok firstOpening)
    (secondStarted : start second dialog flags other = .ok secondOpening)
    (firstComplete : firstOpening.Complete firstBeats)
    (secondComplete : secondOpening.Complete secondBeats)
    (choices : firstOpening.choices firstBeats = secondOpening.choices secondBeats) :
    let firstLast := firstOpening.play firstBeats
    let secondLast := secondOpening.play secondBeats
    firstLast.progress = secondLast.progress ∧ firstLast.flags = secondLast.flags ∧
      firstLast.conversation.requested = secondLast.conversation.requested ∧
      ∃ told,
        firstLast.host.calls.filter Call.isTold = host.calls.filter Call.isTold ++ told ∧
          secondLast.host.calls.filter Call.isTold = other.calls.filter Call.isTold ++ told := by
  intro firstLast secondLast
  obtain ⟨opened, firstOpened, secondOpened⟩ :=
    tale_start requested music firstStarted secondStarted
  have firstUnfolds := tale_unfolds (start_reports firstStarted) firstComplete
  have secondUnfolds := tale_unfolds (start_reports secondStarted) secondComplete
  rw [firstOpened] at firstUnfolds
  rw [secondOpened, ← choices] at secondUnfolds
  obtain ⟨rest, unfolds, firstEnds⟩ := firstUnfolds.of_after
  obtain ⟨same, alsoUnfolds, secondEnds⟩ := secondUnfolds.of_after
  obtain rfl := unfolds.unique alsoUnfolds
  obtain ⟨firstProgress, firstTold⟩ := tale_says (start_reports firstStarted) firstComplete
  obtain ⟨secondProgress, secondTold⟩ := tale_says (start_reports secondStarted) secondComplete
  rw [firstEnds] at firstProgress firstTold
  rw [secondEnds] at secondProgress secondTold
  have memory : firstLast.memory = secondLast.memory :=
    (congrArg Tale.memory firstEnds).trans (congrArg Tale.memory secondEnds).symm
  exact ⟨firstProgress.trans secondProgress.symm, congrArg Memory.flags memory,
    congrArg Memory.requested memory, rest.calls, firstTold, secondTold⟩

/-- A choice of two ways, one of which is remarked on. -/
def crossroads : DialogGraph :=
  ⟨⟨"crossroads",
    [⟨.start, [⟨Port.exit, some 1⟩]⟩,
      ⟨.branch .player [⟨"Left", none, 0, [.emit "left"]⟩, ⟨"Right", none, 0, []⟩],
        [⟨Port.option 0, some 2⟩, ⟨Port.option 1, some 3⟩]⟩,
      ⟨.line ⟨.player, "Hm.", none⟩, [⟨Port.exit, some 3⟩]⟩, ⟨.finish, []⟩]⟩, none⟩

/-- A player who hesitates and one who does not hear the same at the crossroads. -/
theorem pace_keeps_tale_crossroads :
    let press (input : Input) : Beat := ⟨.press input, false⟩
    let confirm := press ⟨true, false, false⟩
    let second : Beat := ⟨.wait (.ofSeconds 1), false⟩
    let slow := [press ⟨false, false, true⟩, press ⟨false, true, false⟩, confirm, confirm, second,
      confirm, second]
    let swift := [confirm, confirm]
    ∃ leisurely hasty,
      start (.ofConfig .standard) crossroads ∅ .empty = .ok leisurely ∧
      start (.ofConfig { Config.standard with text := .instant }) crossroads ∅ .empty = .ok hasty ∧
      leisurely.Complete slow ∧ hasty.Complete swift ∧
      leisurely.choices slow = hasty.choices swift ∧
      (leisurely.play slow).host.calls.filter Call.isTold =
        (hasty.play swift).host.calls.filter Call.isTold := by
  intro press confirm second slow swift
  have started : ∃ leisurely hasty,
      start (.ofConfig .standard) crossroads ∅ .empty = .ok leisurely ∧
      start (.ofConfig { Config.standard with text := .instant }) crossroads ∅ .empty = .ok hasty ∧
      leisurely.Complete slow ∧ hasty.Complete swift ∧
      leisurely.choices slow = hasty.choices swift :=
    ⟨_, _, rfl, rfl, by decide, by decide, by decide⟩
  obtain ⟨leisurely, hasty, begun, alsoBegun, complete, alsoComplete, choices⟩ := started
  obtain ⟨-, -, -, told, leisurelyTold, hastyTold⟩ := pace_keeps_tale (by rfl) (by rfl) begun
    alsoBegun complete alsoComplete choices
  exact ⟨leisurely, hasty, begun, alsoBegun, complete, alsoComplete, choices,
    leisurelyTold.trans hastyTold.symm⟩

end Performance

end Narrative
