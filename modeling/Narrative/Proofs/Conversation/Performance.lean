import Narrative.Proofs.Conversation.Integrity
import Narrative.Proofs.Host.Record

/-!
# Performances

A performance is one dialog played to a recorder, beat by beat. Each beat brings a tick, and before
it the recorder is told whether an illustration is moving.
-/

namespace Narrative

open Dialog (Manner Memory Stop Wait)

/-- A confirmed choice is what a tick comes to at a branch. -/
theorem Conversation.resume_choose {conversation : Conversation} {session : Session}
    (running : conversation.session = some session) {count selected : Nat}
    (waiting : session.wait = .choose count selected) {tick : Tick} {animating : Bool}
    (confirms : (tick.input.confirm && !animating) = true) (flags : Flags) :
    let moved := moveHighlight conversation.manner.sounds tick.input count selected
    (conversation.resume tick animating flags).value =
      (choose conversation session moved.1 flags).value.after
        (moved.2 ++ [.playSound conversation.manner.sounds.decide, .hideOptions]) := by
  unfold resume
  rw [running]
  dsimp only
  unfold resumeSession
  rw [waiting]
  dsimp only
  rw [if_pos confirms]
  rfl

/-- What a performance goes on with. -/
structure Beat where
  /-- The time that passes, and what the player presses. -/
  tick : Tick
  /-- Whether an illustration is moving. -/
  animating : Bool
  deriving DecidableEq, Repr

/-- Whether the player confirms. It does not count while an illustration is moving. -/
def Beat.confirms (beat : Beat) : Bool := beat.tick.input.confirm && !beat.animating

/-- A conversation with the flags and the recorder that it is played to. -/
structure Performance where
  /-- The conversation. -/
  conversation : Conversation
  /-- The flags. -/
  flags : Flags
  /-- The recorder. -/
  host : Recorder
  /-- How far the dialog has come. -/
  progress : Progress

namespace Performance

/-- The performance after a turn. -/
def take (host : Recorder) (turn : Turn) : Performance :=
  ⟨turn.conversation, turn.flags, Host.performAll host turn.calls, turn.progress⟩

/-- The start of a dialog, while the music of the host plays. -/
def start (conversation : Conversation) (dialog : DialogGraph) (flags : Flags) (host : Recorder) :
    Except StartError Performance :=
  (conversation.start dialog (Host.music host) flags).map fun turn => take host turn.value

/-- The performance after one more beat. -/
def resume (performance : Performance) (beat : Beat) : Performance :=
  let host := { performance.host with animating := beat.animating }
  take host
    (performance.conversation.resume beat.tick (Host.animating host) performance.flags).value

/-- The performance after more beats. -/
def play (performance : Performance) (beats : List Beat) : Performance :=
  beats.foldl resume performance

/-- What the story remembers. -/
def memory (performance : Performance) : Memory :=
  performance.conversation.memory performance.flags

/-- What the running dialog waits for. -/
def wait? (performance : Performance) : Option Wait :=
  performance.conversation.session.map Session.wait

variable {performance opening : Performance} {conversation : Conversation} {dialog : DialogGraph}
  {flags : Flags} {host : Recorder} {manner : Manner}

/-- A recorder keeps the calls of a turn. -/
theorem calls_take (host : Recorder) (turn : Turn) :
    (take host turn).host.calls = host.calls ++ turn.calls :=
  host.calls_performAll turn.calls

/-- A performance starts with the turn that starts its dialog. -/
theorem start_ok (started : start conversation dialog flags host = .ok opening) :
    ∃ turn, conversation.start dialog host.music flags = .ok turn ∧
      opening = take host turn.value := by
  unfold start at started
  change (conversation.start dialog host.music flags).map _ = _ at started
  cases begun : conversation.start dialog host.music flags with
  | error error =>
    rw [begun] at started
    cases started
  | ok turn =>
    rw [begun] at started
    exact ⟨turn, rfl, (Except.ok.inj started).symm⟩

/-- A performance starts integral. -/
theorem start_integral (started : start conversation dialog flags host = .ok opening) :
    opening.conversation.Integral conversation.manner := by
  obtain ⟨turn, begun, rfl⟩ := start_ok started
  obtain ⟨idle, -⟩ := Conversation.start_ok begun
  exact (Conversation.start_integral (Conversation.integral_of_idle rfl idle) begun).conversation

/-- A beat keeps a performance integral. -/
theorem resume_integral (integral : performance.conversation.Integral manner) (beat : Beat) :
    (performance.resume beat).conversation.Integral manner :=
  (Conversation.resume_integral integral beat.tick beat.animating performance.flags).conversation

end Performance

end Narrative
