import Narrative.Proofs.Conversation.Press
import Narrative.Proofs.Dialog.Reveal

/-!
# The time that text and ends take

A dialog that comes to a line shows its first letter at once, and the others as time passes; one
that comes to its end closes after a delay. Both go by the sum of the times of the ticks alone,
however they are cut, and whatever is pressed before the line is whole.
-/

namespace Narrative

open Dialog (Manner Memory Stop Wait revealLine walk applyEffects)

namespace Moment

/-- Whether the player confirms, and is not held back by an illustration that is moving. -/
def confirms (moment : Moment) : Bool := moment.tick.input.confirm && !moment.animating

/-- The nanoseconds that pass at some moments. -/
def time : List Moment → Nat
  | [] => 0
  | moment :: rest => moment.tick.elapsed.nanoseconds + time rest

/-- One more moment. -/
theorem time_concat (moments : List Moment) (moment : Moment) :
    time (moments ++ [moment]) = time moments + moment.tick.elapsed.nanoseconds := by
  induction moments with
  | nil => exact Nat.add_comm ..
  | cons first rest ih =>
    change first.tick.elapsed.nanoseconds + time (rest ++ [moment]) = _
    rw [ih, ← Nat.add_assoc]
    rfl

end Moment

/-- Whether nothing is confirmed at some moments once all of a line of some length has appeared. -/
def TextPace.Unconfirmed (pace : TextPace) (length : Nat) (moments : List Moment) : Prop :=
  ∀ earlier moment later, moments = earlier ++ moment :: later → moment.confirms = true →
    pace.due length (Moment.time earlier) < length

namespace Conversation

/-- The turn of a conversation at a moment. -/
def turn (conversation : Conversation) (moment : Moment) : Turn :=
  (conversation.resume moment.tick moment.animating moment.flags).value

/-- The conversation after some moments. -/
def through (conversation : Conversation) (moments : List Moment) : Conversation :=
  moments.foldl (fun conversation moment => (conversation.turn moment).conversation) conversation

/-- What the host is asked to do at some moments. -/
def asks (conversation : Conversation) : List Moment → List Call
  | [] => []
  | moment :: rest =>
    (conversation.turn moment).calls ++ (conversation.turn moment).conversation.asks rest

/-- One more moment. -/
theorem through_concat (conversation : Conversation) (moments : List Moment) (moment : Moment) :
    conversation.through (moments ++ [moment]) =
      ((conversation.through moments).turn moment).conversation :=
  List.foldl_concat ..

/-- What is asked at one more moment comes last. -/
theorem asks_concat (conversation : Conversation) (moments : List Moment) (moment : Moment) :
    conversation.asks (moments ++ [moment]) =
      conversation.asks moments ++ ((conversation.through moments).turn moment).calls := by
  induction moments generalizing conversation with
  | nil => exact List.append_nil _
  | cons first rest ih =>
    change _ ++ (conversation.turn first).conversation.asks (rest ++ [moment]) = _
    rw [ih, ← List.append_assoc]
    rfl

end Conversation

/-- A stop that has come to its node: a line shows what there is time for, and an end waits for its
delay. -/
structure Dialog.Stop.Fresh (manner : Manner) (dialog : DialogGraph) (stop : Stop) : Prop where
  /-- A line is being revealed. -/
  line : ∀ line, dialog.graph.kind? stop.node = some (.line line) →
    let revealed := revealLine manner line.text.toList manner.pace.interval line.speaker
    stop.wait = some revealed.1 ∧
      ∃ before, before.filter Call.isLetter = [] ∧ stop.calls = before ++ revealed.2
  /-- An end closes after its delay. -/
  finish : dialog.graph.kind? stop.node = some .finish →
    stop.wait = if manner.pace.delay.isZero then none else some (.closing manner.pace.delay)

namespace Dialog

variable {manner : Manner} {dialog : DialogGraph} {stop : Stop}

/-- Calls that show no letter do not matter to a stop. -/
theorem Stop.Fresh.after (fresh : stop.Fresh manner dialog) {calls : List Call}
    (mute : calls.filter Call.isLetter = []) : (stop.after calls).Fresh manner dialog := by
  refine ⟨fun line known => ?_, fresh.finish⟩
  obtain ⟨waits, before, quiet, same⟩ := fresh.line line known
  refine ⟨waits, calls ++ before, ?_, ?_⟩
  · rw [List.filter_append, mute, quiet]
    rfl
  · rw [List.append_assoc, ← same]
    rfl

/-- A stop at another sort of node. -/
theorem Stop.fresh_of_other {kind : DialogNode} (known : dialog.graph.kind? stop.node = some kind)
    (mute : ∀ line, kind ≠ .line line) (goesOn : kind ≠ .finish) : stop.Fresh manner dialog where
  line line same := absurd (Option.some.inj (known.symm.trans same)) (mute line)
  finish same := absurd (Option.some.inj (known.symm.trans same)) goesOn

/-- A walk that is not given up comes to the node where it stops. -/
theorem walk_fresh (manner : Manner) (dialog : DialogGraph) (bound : Nat) (node : NodeId)
    (character : Option Speaker) (memory : Memory)
    (comes : (walk manner dialog bound node character memory).value.wait ≠
      some (.stalled .endless)) :
    (walk manner dialog bound node character memory).value.Fresh manner dialog := by
  induction bound generalizing node character memory with
  | zero => exact absurd rfl comes
  | succ bound ih =>
    unfold walk at comes ⊢
    cases known : dialog.graph.kind? node with
    | none =>
      refine ⟨fun line same => ?_, fun same => ?_⟩
      · cases known.symm.trans same
      · cases known.symm.trans same
    | some kind =>
      rw [known] at comes
      dsimp only at comes ⊢
      rw [Logged.value_bind] at comes ⊢
      cases kind with
      | start =>
        dsimp only at comes ⊢
        split
        · exact Stop.fresh_of_other known nofun nofun
        · next next connected =>
          rw [connected] at comes
          exact ih next character memory comes
      | line line =>
        refine ⟨fun other same => ?_, fun same => ?_⟩
        · obtain rfl := DialogNode.line.inj (Option.some.inj (known.symm.trans same))
          exact ⟨rfl, _, filter_openLine character line, rfl⟩
        · cases known.symm.trans same
      | branch decider options =>
        cases decider with
        | player =>
          dsimp only
          split
          · exact Stop.fresh_of_other known nofun nofun
          · exact Stop.fresh_of_other known nofun nofun
        | automatic =>
          dsimp only at comes ⊢
          rw [Logged.value_bind] at comes ⊢
          cases resolved : (Branch.resolve memory.flags options).value with
          | none => exact Stop.fresh_of_other known nofun nofun
          | some index =>
            rw [resolved] at comes
            dsimp only at comes ⊢
            cases connected : dialog.graph.connected? node (Port.option index) with
            | none => exact Stop.fresh_of_other known nofun nofun
            | some next =>
              rw [connected] at comes
              exact (ih next character _ comes).after (filter_applyEffects ..)
      | event effects =>
        dsimp only at comes ⊢
        rw [Logged.value_bind] at comes ⊢
        cases connected : dialog.graph.connected? node Port.exit with
        | none => exact Stop.fresh_of_other known nofun nofun
        | some next =>
          rw [connected] at comes
          exact (ih next character _ comes).after (filter_applyEffects ..)
      | finish =>
        have mute (line : Line) : dialog.graph.kind? node ≠ some (.line line) := by
          rw [known]
          exact nofun
        dsimp only
        split
        · next instant =>
          exact ⟨fun line same => absurd same (mute line), fun _ => (if_pos instant).symm⟩
        · next waits =>
          exact ⟨fun line same => absurd same (mute line), fun _ => (if_neg waits).symm⟩

end Dialog

/-- A turn that has come to a node of a dialog: a line shows what there is time for, and an end is
closed at once or waits for its delay. -/
structure Turn.Fresh (manner : Manner) (dialog : DialogGraph) (node : NodeId) (turn : Turn) :
    Prop where
  /-- The manner is kept. -/
  kept : turn.conversation.manner = manner
  /-- A line is being revealed. -/
  line : ∀ line, dialog.graph.kind? node = some (.line line) →
    let revealed := revealLine manner line.text.toList manner.pace.interval line.speaker
    ∃ session, turn.conversation.session = some session ∧ session.node = node ∧
      session.wait = revealed.1 ∧
      ∃ before, before.filter Call.isLetter = [] ∧ turn.calls = before ++ revealed.2
  /-- An end without a delay is closed. -/
  closed : dialog.graph.kind? node = some .finish → manner.pace.delay.isZero = true →
    turn.progress = .done
  /-- An end with a delay waits for it. -/
  closing : dialog.graph.kind? node = some .finish → manner.pace.delay.isZero = false →
    turn.progress = .suspended ∧ ∃ session, turn.conversation.session = some session ∧
      session.wait = .closing manner.pace.delay

/-- Calls that show no letter do not matter to a turn. -/
theorem Turn.Fresh.after {manner : Manner} {dialog : DialogGraph} {node : NodeId} {turn : Turn}
    (fresh : turn.Fresh manner dialog node) {calls : List Call}
    (mute : calls.filter Call.isLetter = []) : (turn.after calls).Fresh manner dialog node := by
  refine ⟨fresh.kept, fun line known => ?_, fresh.closed, fresh.closing⟩
  obtain ⟨session, running, here, waits, before, quiet, same⟩ := fresh.line line known
  refine ⟨session, running, here, waits, calls ++ before, ?_, ?_⟩
  · rw [List.filter_append, mute, quiet]
    rfl
  · rw [List.append_assoc, ← same]
    rfl

namespace Conversation

variable {conversation : Conversation} {session : Session} {flags : Flags} {tick : Tick}
  {animating : Bool} {dialog : DialogGraph} {node : NodeId}

/-- A turn that comes to a node of a dialog, which it starts or goes on with: it goes by a path
there from the start, or from the node where the dialog waited. -/
inductive Enters (conversation : Conversation) : DialogGraph → NodeId → Turn → Prop where
  /-- The dialog starts. -/
  | start {dialog : DialogGraph} {music : Option String} {flags : Flags} {turn : Logged Turn}
      {root node : NodeId} (started : conversation.start dialog music flags = .ok turn)
      (goes : turn.value.Goes conversation.manner.tracing dialog root (conversation.memory flags)
        (conversation.startLegs dialog flags) node) :
      Enters conversation dialog node turn.value
  /-- The dialog goes on. -/
  | resume {session : Session} {tick : Tick} {animating : Bool} {flags : Flags} {node : NodeId}
      (running : conversation.session = some session)
      (leaves : conversation.resumeLegs tick animating flags ≠ [])
      (goes : (conversation.resume tick animating flags).value.Goes conversation.manner.tracing
        session.dialog session.node (conversation.memory flags)
        (conversation.resumeLegs tick animating flags) node) :
      Enters conversation session.dialog node (conversation.resume tick animating flags).value

/-- Where a walk came to is taken over. -/
theorem settle_fresh {stop : Stop} (fresh : stop.Fresh conversation.manner session.dialog)
    (warrant : stop.Warranted session.dialog)
    (stands : ∀ after, (settle conversation session stop).value.conversation.session = some after →
      after.node = node)
    (ended : (settle conversation session stop).value.conversation.session = none →
      session.dialog.graph.kind? node = some .finish) :
    (settle conversation session stop).value.Fresh conversation.manner session.dialog node := by
  obtain ⟨here, character, wait, memory, calls⟩ := stop
  cases wait with
  | none =>
    have instant : conversation.manner.pace.delay.isZero = true := by
      by_contra waits
      have closing := fresh.finish warrant
      rw [if_neg waits] at closing
      cases closing
    refine ⟨rfl, fun line known => ?_, fun _ _ => rfl, fun _ waits => ?_⟩
    · cases (ended rfl).symm.trans known
    · cases instant.symm.trans waits
  | some wait =>
    obtain rfl := stands _ rfl
    refine ⟨rfl, fun line known => ?_, fun known instant => ?_, fun known later => ?_⟩
    · obtain ⟨waits, before, mute, same⟩ := fresh.line line known
      exact ⟨_, rfl, rfl, Option.some.inj waits, before, mute, same⟩
    · cases (fresh.finish known).trans (if_pos instant)
    · have waits := fresh.finish known
      rw [later] at waits
      obtain rfl := Option.some.inj waits
      exact ⟨rfl, _, rfl, rfl⟩

/-- Going on at a node comes to the node where the walk stops, unless the dialog stalls. -/
theorem goTo_fresh {next : NodeId} {memory before : Memory} {tracing : Tracing} {root : NodeId}
    {legs : List Leg}
    (goes : (goTo conversation session next memory).value.Goes tracing session.dialog root before
      legs node)
    (goesOn : (goTo conversation session next memory).value.progress ≠ .stalled) :
    (goTo conversation session next memory).value.Fresh conversation.manner session.dialog
      node := by
  let stop := (Dialog.run conversation.manner session.dialog next session.character memory).value
  have recounts : stop.Recounts conversation.manner.tracing session.dialog next memory
      (goToLegs conversation session next memory) := Dialog.walk_recounts ..
  have comes : stop.wait ≠ some (.stalled .endless) := by
    intro givenUp
    refine goesOn ?_
    change (settle conversation session stop).value.progress = .stalled
    unfold settle
    rw [givenUp]
    rfl
  have fresh : stop.Fresh conversation.manner session.dialog :=
    Dialog.walk_fresh _ _ _ _ _ _ comes
  exact settle_fresh fresh recounts.warrant (fun after running => (goes.stands after running).2)
    goes.ended

/-- A turn that leaves the node where the dialog waits goes on at another one, and asks for no
letter before. -/
theorem resumeSession_leaves (leaves : sessionLegs conversation session tick animating flags ≠ []) :
    ∃ next memory calls, calls.filter Call.isLetter = [] ∧
      (resumeSession conversation session tick animating flags).value =
        (goTo conversation session next memory).value.after calls := by
  unfold sessionLegs at leaves
  unfold resumeSession
  dsimp only
  split at leaves
  · next pressed =>
    cases waiting : session.wait with
    | confirm =>
      rw [waiting] at leaves
      dsimp only at leaves ⊢
      rw [if_pos pressed]
      cases connected : session.dialog.graph.connected? session.node Port.exit with
      | none =>
        rw [connected] at leaves
        exact absurd rfl leaves
      | some next => exact ⟨next, _, [.playSound conversation.manner.sounds.decide], rfl, rfl⟩
    | choose count selected =>
      rw [waiting] at leaves
      dsimp only at leaves ⊢
      rw [if_pos pressed]
      unfold chooseLegs at leaves
      unfold choose
      have quiet := Dialog.filter_asides
        (moveHighlight_asides conversation.manner.sounds tick.input count selected)
      generalize moved : moveHighlight conversation.manner.sounds tick.input count selected =
        highlight at quiet
      rw [moved] at leaves
      cases connected :
          session.dialog.graph.connected? session.node (Port.option highlight.1) with
      | none =>
        rw [connected] at leaves
        exact absurd rfl leaves
      | some next =>
        have mute (memory : Memory) (effects : List Effect) :
            (highlight.2 ++ [Call.playSound conversation.manner.sounds.decide, .hideOptions] ++
              (applyEffects conversation.manner.tracing memory effects).value.2).filter
                Call.isLetter = [] := by
          rw [List.filter_append, List.filter_append, quiet, Dialog.filter_applyEffects]
          rfl
        dsimp only
        rw [Logged.value_bind, Logged.value_bind, Logged.value_bind]
        exact ⟨next, _, _, mute _ _, Turn.after_after ..⟩
    | _ =>
      rw [waiting] at leaves
      exact absurd rfl leaves
  · exact absurd rfl leaves

/-- A turn that comes to a node shows what there is time for, unless the dialog stalls. -/
theorem Enters.fresh {turn : Turn} (enters : Enters conversation dialog node turn)
    (goesOn : turn.progress ≠ .stalled) : turn.Fresh conversation.manner dialog node := by
  cases enters with
  | start started goes =>
    obtain ⟨-, root, begins, same⟩ := start_ok started
    rw [same] at goes goesOn ⊢
    have fresh := goTo_fresh goes.of_after goesOn
    exact fresh.after (Dialog.filter_asides (openingCalls_asides dialog))
  | resume running leaves goes =>
    unfold resumeLegs at leaves
    unfold Conversation.resume at goes goesOn ⊢
    rw [running] at leaves goes goesOn ⊢
    obtain ⟨next, memory, calls, mute, same⟩ := resumeSession_leaves leaves
    dsimp only at goes goesOn ⊢
    rw [same] at goes goesOn ⊢
    exact (goTo_fresh goes.of_after goesOn).after mute

/-- While a line is being revealed, a moment adds its time, unless the line is whole and the player
confirms. -/
theorem turn_revealing (running : conversation.session = some session) {text : List Char}
    {speaker : Speaker} {budget : Duration} (moment : Moment)
    (waits : session.wait = (revealLine conversation.manner text budget speaker).1)
    (fits : budget.nanoseconds + moment.tick.elapsed.nanoseconds ≤ Duration.longest)
    (unconfirmed : moment.confirms = true →
      (revealLine conversation.manner text budget speaker).1 ≠ .confirm) :
    let turn := conversation.turn moment
    let onward := revealLine conversation.manner text (budget.add moment.tick.elapsed) speaker
    turn.conversation =
        { conversation with session := some { session with wait := onward.1 } } ∧
      (revealLine conversation.manner text budget speaker).2 ++ turn.calls = onward.2 := by
  have resumed : conversation.turn moment = (resumeSession conversation session moment.tick
      moment.animating moment.flags).value := by
    unfold turn resume
    rw [running]
  dsimp only
  rw [resumed]
  unfold resumeSession
  dsimp only
  cases waiting : session.wait with
  | reveal remaining left other =>
    have unfinished := waits.symm.trans waiting
    rw [Dialog.revealLine_add_of_reveal conversation.manner fits unfinished]
    exact ⟨rfl, rfl⟩
  | confirm =>
    have whole := waits.symm.trans waiting
    have ignored : ¬(moment.tick.input.confirm && !moment.animating) = true :=
      fun confirms => unconfirmed confirms whole
    rw [Dialog.revealLine_add_of_confirm conversation.manner fits whole, whole]
    dsimp only
    rw [if_neg ignored]
    exact ⟨rfl, List.append_nil _⟩
  | _ =>
    obtain whole | ⟨hidden, left, more⟩ :=
      Dialog.revealLine_cases conversation.manner text budget speaker
    · cases waiting.symm.trans (waits.trans whole)
    · cases waiting.symm.trans (waits.trans more)

/-- While a line is being revealed, the times of all moments count together, unless the line is
whole and the player confirms. -/
theorem through_revealing (running : conversation.session = some session) {text : List Char}
    {speaker : Speaker}
    (waits : session.wait = (revealLine conversation.manner text
      conversation.manner.pace.interval speaker).1)
    {moments : List Moment}
    (fits : conversation.manner.pace.interval.nanoseconds + Moment.time moments ≤ Duration.longest)
    (unconfirmed : conversation.manner.pace.Unconfirmed text.length moments) :
    let revealed := revealLine conversation.manner text (.ofNanoseconds
      (conversation.manner.pace.interval.nanoseconds + Moment.time moments)) speaker
    conversation.through moments =
        { conversation with session := some { session with wait := revealed.1 } } ∧
      (revealLine conversation.manner text conversation.manner.pace.interval speaker).2 ++
        conversation.asks moments = revealed.2 := by
  -- The induction goes by the last moment, so that the time before it is that of all others.
  induction moments using List.reverseRecOn with
  | nil =>
    have begun : Duration.ofNanoseconds (conversation.manner.pace.interval.nanoseconds +
        Moment.time []) = conversation.manner.pace.interval := by
      rw [show Moment.time [] = 0 from rfl, Nat.add_zero, Duration.ofNanoseconds_nanoseconds]
    rw [begun]
    refine ⟨?_, List.append_nil _⟩
    change conversation = { conversation with session := some { session with wait := _ } }
    rw [← waits, ← running]
  | append_singleton earlier moment ih =>
    rw [Moment.time_concat] at fits
    obtain ⟨stands, asked⟩ := ih (by omega) fun before next after split =>
      unconfirmed before next (after ++ [moment]) (by rw [split, List.append_assoc]; rfl)
    let budget : Duration :=
      .ofNanoseconds (conversation.manner.pace.interval.nanoseconds + Moment.time earlier)
    have held (confirms : moment.confirms = true) :
        (revealLine conversation.manner text budget speaker).1 ≠ .confirm := by
      have fitted : conversation.manner.pace.interval.nanoseconds + Moment.time earlier ≤
          Duration.longest := by
        omega
      have whole := (Dialog.revealLine_due conversation.manner text fitted speaker).2
      exact fun confirm => whole.1 confirm (unconfirmed earlier moment [] rfl confirms)
    have short : budget.nanoseconds + moment.tick.elapsed.nanoseconds ≤ Duration.longest := by
      have least : budget.nanoseconds ≤ _ := Nat.min_le_left ..
      omega
    have added : budget.add moment.tick.elapsed =
        .ofNanoseconds (conversation.manner.pace.interval.nanoseconds +
          (Moment.time earlier + moment.tick.elapsed.nanoseconds)) := by
      rw [Duration.add_ofNanoseconds, Nat.add_assoc]
    let shown : Session :=
      { session with wait := (revealLine conversation.manner text budget speaker).1 }
    let before : Conversation := { conversation with session := some shown }
    have waiting : shown.wait = (revealLine before.manner text budget speaker).1 := rfl
    have standing : before.session = some shown := rfl
    obtain ⟨onward, adds⟩ := turn_revealing standing moment waiting short held
    rw [added] at onward adds
    rw [through_concat, asks_concat, stands, Moment.time_concat, ← List.append_assoc, asked]
    exact ⟨onward, adds⟩

/-- An end is closed at a moment with which its delay has passed, and waits for the rest of the
delay otherwise. -/
theorem turn_closing {remaining : Duration} (running : conversation.session = some session)
    (waits : session.wait = .closing remaining) (moment : Moment) :
    let turn := conversation.turn moment
    if remaining.nanoseconds ≤ moment.tick.elapsed.nanoseconds then turn.progress = .done
    else turn.progress = .suspended ∧ turn.conversation.session =
      some { session with wait := .closing (remaining.sub moment.tick.elapsed) } := by
  have passes : (remaining.sub moment.tick.elapsed).isZero = true ↔
      remaining.nanoseconds ≤ moment.tick.elapsed.nanoseconds := by
    unfold Duration.isZero
    rw [Duration.nanoseconds_sub, beq_iff_eq, Nat.sub_eq_zero_iff_le]
  unfold turn resume
  rw [running]
  dsimp only
  unfold resumeSession
  rw [waits]
  dsimp only
  split
  · next passed =>
    rw [if_pos (passes.2 passed)]
    rfl
  · next early =>
    rw [if_neg (passes.not.2 early)]
    exact ⟨rfl, rfl⟩

/-- An end is closed at the first moment with which its delay has passed. -/
theorem progresses_closing {remaining : Duration} (running : conversation.session = some session)
    (waits : session.wait = .closing remaining) (moments : List Moment) (moment : Moment)
    (early : Moment.time moments < remaining.nanoseconds) :
    conversation.progresses (moments ++ [moment]) =
      List.replicate moments.length .suspended ++
        [if remaining.nanoseconds ≤ Moment.time (moments ++ [moment]) then .done
          else .suspended] := by
  induction moments generalizing conversation session remaining with
  | nil =>
    have closing := turn_closing running waits moment
    change [(conversation.turn moment).progress] = [_]
    rw [Moment.time_concat, show Moment.time [] = 0 from rfl, Nat.zero_add]
    dsimp only at closing
    split at closing
    · next passed => rw [closing, if_pos passed]
    · next later => rw [closing.1, if_neg later]
  | cons first rest ih =>
    have total : Moment.time (first :: rest) =
        first.tick.elapsed.nanoseconds + Moment.time rest := rfl
    rw [total] at early
    have closing := turn_closing running waits first
    dsimp only at closing
    rw [if_neg (by omega)] at closing
    obtain ⟨suspended, stands⟩ := closing
    have left := Duration.nanoseconds_sub remaining first.tick.elapsed
    have onward := ih stands rfl (by omega)
    change (conversation.turn first).progress ::
      (conversation.turn first).conversation.progresses (rest ++ [moment]) = _
    rw [suspended, onward, left, Moment.time_concat, Moment.time_concat, total]
    have same : remaining.nanoseconds - first.tick.elapsed.nanoseconds ≤
          Moment.time rest + moment.tick.elapsed.nanoseconds ↔
        remaining.nanoseconds ≤ first.tick.elapsed.nanoseconds + Moment.time rest +
          moment.tick.elapsed.nanoseconds := by
      omega
    simp only [same]
    rfl

/-- When a turn comes to a line of a dialog and the dialog does not stall, the letters that have
appeared after any moments are as many as are due after the sum of their times, each heard once, and
the speaker stops talking with the last one; it does not matter how the time is cut, and what is
pressed before the line is whole. When it comes to an end, the dialog is over at once if there is no
delay, and otherwise at the first moment with which the sum of the times has come to the delay. -/
theorem text_and_end_keep_time (conversation : Conversation) (dialog : DialogGraph) (node : NodeId)
    (turn : Turn) (enters : Enters conversation dialog node turn)
    (goesOn : turn.progress ≠ .stalled) :
    let manner := conversation.manner
    let interval := manner.pace.interval.nanoseconds
    let delay := manner.pace.delay.nanoseconds
    (∀ line, dialog.graph.kind? node = some (.line line) →
      ∃ before, before.filter Call.isLetter = [] ∧ ∀ moments,
        interval + Moment.time moments ≤ Duration.longest →
        manner.pace.Unconfirmed line.text.toList.length moments →
          let text := line.text.toList
          let due := manner.pace.due text.length (Moment.time moments)
          let calls := turn.calls ++ turn.conversation.asks moments
          calls = before ++ manner.letters (text.take due) ++
              (if due < text.length then [] else Dialog.hush line.speaker) ∧
            (calls.filter Call.isLetter).length = due ∧
            (turn.conversation.through moments).node? = some node) ∧
    (dialog.graph.kind? node = some .finish →
      (delay = 0 → turn.progress = .done) ∧
      (0 < delay → turn.progress = .suspended ∧
        ∀ moments moment, Moment.time moments < delay →
          turn.conversation.progresses (moments ++ [moment]) =
            List.replicate moments.length .suspended ++
              [if delay ≤ Moment.time (moments ++ [moment]) then .done else .suspended])) := by
  intro manner interval delay
  have fresh := enters.fresh goesOn
  refine ⟨fun line known => ?_, fun known => ⟨fun instant => ?_, fun later => ?_⟩⟩
  · obtain ⟨session, running, here, waits, before, mute, same⟩ := fresh.line line known
    refine ⟨before, mute, fun moments fits unconfirmed => ?_⟩
    have kept : turn.conversation.manner = conversation.manner := fresh.kept
    rw [← kept] at waits
    obtain ⟨stands, asked⟩ := through_revealing running waits (by rw [kept]; exact fits)
      (by rw [kept]; exact unconfirmed)
    rw [kept] at asked
    intro text due calls
    have shown : calls = before ++ manner.letters (text.take due) ++
        (if due < text.length then [] else Dialog.hush line.speaker) := by
      unfold calls
      rw [same, List.append_assoc, asked, (Dialog.revealLine_due manner text fits _).1,
        List.append_assoc]
    refine ⟨shown, ?_, ?_⟩
    · have hushed : (if due < text.length then [] else Dialog.hush line.speaker).filter
          Call.isLetter = [] := by
        split
        · rfl
        · exact Dialog.filter_hush line.speaker
      rw [shown, List.filter_append, List.filter_append, mute, hushed, Dialog.Manner.filter_letters,
        List.nil_append, List.append_nil, List.length_map, List.length_take]
      exact Nat.min_eq_left (manner.pace.due_le ..)
    · rw [stands]
      exact congrArg some here
  · exact fresh.closed known (beq_iff_eq.2 instant)
  · have delayed : manner.pace.delay.isZero = false := beq_eq_false_iff_ne.2 (Nat.ne_of_gt later)
    obtain ⟨suspended, session, running, waits⟩ := fresh.closing known delayed
    exact ⟨suspended, progresses_closing running waits⟩

/-- A greeting is shown letter by letter, one in fifty milliseconds, as long as nobody confirms. -/
theorem text_and_end_keep_time_greeting :
    ∃ turn, (ofConfig .standard).start .greeting none ∅ = .ok turn ∧
      Enters (ofConfig .standard) .greeting 1 turn.value ∧ turn.value.progress ≠ .stalled ∧
      ∀ moments, (∀ moment ∈ moments, moment.confirms = false) →
        Moment.time moments ≤ secondLength →
          ((turn.value.calls ++ turn.value.conversation.asks moments).filter
            Call.isLetter).length = min 6 (1 + Moment.time moments / 50000000) := by
  obtain ⟨turn, started, stands, goesOn⟩ : ∃ turn,
      (ofConfig .standard).start .greeting none ∅ = .ok turn ∧
        turn.value.conversation.node? = some 1 ∧ turn.value.progress ≠ .stalled :=
    ⟨_, rfl, by decide, by decide⟩
  obtain ⟨root, last, -, goes⟩ := start_goes started
  have enters : Enters (ofConfig .standard) .greeting 1 turn.value := by
    obtain ⟨session, running, here⟩ := Option.map_eq_some_iff.1 stands
    rw [(goes.stands session running).2] at here
    exact .start started (here ▸ goes)
  refine ⟨turn, started, enters, goesOn, fun moments quiet short => ?_⟩
  obtain ⟨before, -, shows⟩ := (text_and_end_keep_time _ _ _ _ enters goesOn).1 _ rfl
  have interval : (ofConfig .standard).manner.pace.interval.nanoseconds = 50000000 := by decide
  have fits : 50000000 + secondLength ≤ Duration.longest := by decide
  obtain ⟨-, count, -⟩ := shows moments (by rw [interval]; omega)
    fun earlier moment later split confirms => by
      rw [quiet moment (by rw [split]; simp)] at confirms
      cases confirms
  rw [count]
  unfold TextPace.due
  rw [interval]
  rfl

end Conversation

end Narrative
