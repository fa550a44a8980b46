import Narrative.Proofs.Conversation.Effects
import Narrative.Proofs.Dialog.Staging
import Narrative.Proofs.Host.Record

/-!
# The ambient music

A dialog may have music of its own. It plays from the start of the dialog to its end, in place of
the ambient music, which the running dialog remembers. The ambient music is what plays while no
dialog is running, and would play without the one that is; no turn of a conversation changes it.
-/

namespace Narrative

open Dialog (Manner Memory Stop Wait walk applyEffects)
open Recorder (musicAfter)

/-- Whether a call leaves the music as it is. -/
def Call.keepsMusic : Call → Bool
  | playMusic _ => false
  | stopMusic => false
  | _ => true

/-- Calls that leave the music as it is, in a row. -/
theorem Recorder.music_kept {calls : List Call} (keeps : calls.all Call.keepsMusic = true)
    (music : Option String) : calls.foldl musicAfter music = music := by
  induction calls with
  | nil => rfl
  | cons call rest ih =>
    obtain ⟨kept, keeps⟩ := Bool.and_eq_true_iff.1 keeps
    cases call with
    | playMusic cue => cases kept
    | stopMusic => cases kept
    | _ => exact ih keeps

namespace Dialog

/-- No effect touches the music. -/
theorem applyEffects_keepsMusic (tracing : Tracing) (memory : Memory) (effects : List Effect) :
    (applyEffects tracing memory effects).value.2.all Call.keepsMusic = true := by
  rw [calls_applyEffects, List.all_map]
  exact List.all_eq_true.2 fun _ _ => rfl

/-- Staging a line does not touch the music. -/
theorem keepsMusic_of_staging (call : Call) (staging : call.isStaging = true) :
    call.keepsMusic = true := by
  cases call with
  | playMusic cue => cases staging
  | stopMusic => cases staging
  | _ => rfl

/-- Revealing a line does not touch the music. -/
theorem revealLine_keepsMusic (manner : Manner) (remaining : List Char) (budget : Duration)
    (speaker : Speaker) :
    (revealLine manner remaining budget speaker).2.all Call.keepsMusic = true :=
  Call.all_of_kind keepsMusic_of_staging (revealLine_staging ..)

/-- No walk touches the music. -/
theorem walk_keepsMusic (manner : Manner) (dialog : DialogGraph) (bound : Nat) (node : NodeId)
    (character : Option Speaker) (memory : Memory) :
    (walk manner dialog bound node character memory).value.calls.all Call.keepsMusic = true := by
  have after {stop : Stop} (keeps : stop.calls.all Call.keepsMusic = true) (memory : Memory)
      (effects : List Effect) :
      (stop.after (applyEffects manner.tracing memory effects).value.2).calls.all
        Call.keepsMusic = true := by
    refine (List.all_append ..).trans ?_
    rw [applyEffects_keepsMusic, keeps]
    rfl
  induction bound generalizing node character memory with
  | zero => rfl
  | succ bound ih =>
    unfold walk
    cases dialog.graph.kind? node with
    | none => rfl
    | some kind =>
      dsimp only
      rw [Logged.value_bind]
      cases kind with
      | start =>
        dsimp only
        cases dialog.graph.connected? node Port.exit with
        | none => rfl
        | some next => exact ih next character memory
      | line line =>
        refine (List.all_append ..).trans ?_
        rw [Call.all_of_kind keepsMusic_of_staging (openLine_staging ..), revealLine_keepsMusic]
        rfl
      | branch mode options =>
        cases mode with
        | player =>
          dsimp only
          split <;> rfl
        | automatic =>
          dsimp only
          rw [Logged.value_bind]
          cases (Branch.resolve memory.flags options).value with
          | none => rfl
          | some index =>
            dsimp only
            cases dialog.graph.connected? node (Port.option index) with
            | none => rfl
            | some next => exact after (ih next character _) _ _
      | event effects =>
        dsimp only
        rw [Logged.value_bind]
        cases dialog.graph.connected? node Port.exit with
        | none => exact applyEffects_keepsMusic manner.tracing memory effects
        | some next => exact after (ih next character _) _ _
      | finish =>
        dsimp only
        split <;> rfl

end Dialog

namespace Conversation

variable {conversation : Conversation} {session : Session}

/-- The ambient music while some music plays: what the running dialog brings back at its end, and
what plays anyway without one that does. -/
def ambience (conversation : Conversation) (music : Option String) : Option String :=
  (conversation.session.bind Session.restore).getD music

/-- Without a dialog the ambient music is what plays. -/
theorem ambience_of_idle (idle : conversation.isRunning = false) (music : Option String) :
    conversation.ambience music = music := by
  unfold isRunning at idle
  have none := Option.isNone_iff_eq_none.1 (Option.isSome_eq_false_iff.1 idle)
  unfold ambience
  rw [none]
  rfl

/-- The end of a dialog brings back the ambient music. -/
theorem music_ending (restore : Option (Option String)) (music : Option String) :
    (Call.dialogEnd :: restoreCalls restore).foldl musicAfter music = restore.getD music := by
  obtain _ | _ | cue := restore <;> rfl

end Conversation

/-- A turn after which the ambient music is the one that a dialog brings back, or else the one that
plays. -/
structure Turn.Restores (restore : Option (Option String)) (turn : Turn) : Prop where
  /-- The ambient music after the calls of the turn. -/
  ambience : ∀ music : Option String,
    turn.conversation.ambience (turn.calls.foldl musicAfter music) = restore.getD music

/-- Calls that leave the music as it is do not matter to the ambient music. -/
theorem Turn.Restores.after {restore : Option (Option String)} {turn : Turn}
    (restores : turn.Restores restore) {calls : List Call}
    (keeps : calls.all Call.keepsMusic = true) : (turn.after calls).Restores restore := by
  refine ⟨fun music => ?_⟩
  change turn.conversation.ambience ((calls ++ turn.calls).foldl musicAfter music) = _
  rw [List.foldl_append, Recorder.music_kept keeps]
  exact restores.ambience music

namespace Conversation

variable {conversation : Conversation} {session : Session}

/-- A dialog that is over has brought back the ambient music. -/
theorem finish_restores (conversation : Conversation) (session : Session) (flags : Flags) :
    (finish conversation session flags).value.Restores session.restore :=
  ⟨music_ending session.restore⟩

/-- Keeping waiting. -/
theorem keep_restores (conversation : Conversation) (session : Session) (wait : Wait)
    (flags : Flags) {calls : List Call} (keeps : calls.all Call.keepsMusic = true) :
    (keep conversation session wait flags calls).Restores session.restore := by
  refine ⟨fun music => ?_⟩
  change session.restore.getD (calls.foldl musicAfter music) = _
  rw [Recorder.music_kept keeps]

/-- Where a walk comes to. -/
theorem settle_restores (conversation : Conversation) (session : Session) {stop : Stop}
    (keeps : stop.calls.all Call.keepsMusic = true) :
    (settle conversation session stop).value.Restores session.restore := by
  unfold settle
  split
  · exact (finish_restores { conversation with requested := stop.memory.requested } session
      stop.memory.flags).after keeps
  · refine ⟨fun music => ?_⟩
    change session.restore.getD (stop.calls.foldl musicAfter music) = _
    rw [Recorder.music_kept keeps]

/-- Going on at another node. -/
theorem goTo_restores (conversation : Conversation) (session : Session) (node : NodeId)
    (memory : Memory) : (goTo conversation session node memory).value.Restores session.restore :=
  settle_restores _ _ (Dialog.walk_keepsMusic ..)

/-- Staying at the node for good. -/
theorem stall_restores (conversation : Conversation) (session : Session) (flags : Flags)
    (reason : Dialog.Stall) :
    (stall conversation session flags reason).value.Restores session.restore :=
  settle_restores conversation session (by rfl)

/-- Choosing an option. -/
theorem choose_restores (conversation : Conversation) (session : Session) (index : Nat)
    (flags : Flags) :
    (choose conversation session index flags).value.Restores session.restore := by
  unfold choose
  cases session.dialog.graph.connected? session.node (Port.option index) with
  | none => exact stall_restores ..
  | some next => exact (goTo_restores ..).after (Dialog.applyEffects_keepsMusic ..)

/-- Going on with a running dialog for one tick. -/
theorem resumeSession_restores (conversation : Conversation) (session : Session) (tick : Tick)
    (animating : Bool) (flags : Flags) :
    (resumeSession conversation session tick animating flags).value.Restores session.restore := by
  unfold resumeSession
  dsimp only
  cases session.wait with
  | reveal remaining budget speaker => exact keep_restores _ _ _ _ (Dialog.revealLine_keepsMusic ..)
  | confirm =>
    dsimp only
    split
    · cases session.dialog.graph.connected? session.node Port.exit with
      | none => exact (stall_restores ..).after rfl
      | some next => exact (goTo_restores ..).after rfl
    · exact keep_restores _ _ _ _ rfl
  | choose count selected =>
    have moves : (moveHighlight conversation.manner.sounds tick.input count selected).2.all
        Call.keepsMusic = true := by
      unfold moveHighlight
      split
      · rfl
      · split <;> rfl
    dsimp only
    split
    · refine (choose_restores ..).after ?_
      rw [List.all_append, moves]
      rfl
    · exact keep_restores _ _ _ _ moves
  | closing remaining =>
    dsimp only
    split
    · exact finish_restores ..
    · exact keep_restores _ _ _ _ rfl
  | stalled reason => exact keep_restores _ _ _ _ rfl

/-- A tick leaves the ambient music as it is. -/
theorem resume_ambience (conversation : Conversation) (tick : Tick) (animating : Bool)
    (flags : Flags) (music : Option String) :
    let turn := (conversation.resume tick animating flags).value
    turn.conversation.ambience (turn.calls.foldl musicAfter music) =
      conversation.ambience music := by
  unfold resume ambience
  cases running : conversation.session with
  | some session =>
    exact (resumeSession_restores conversation session tick animating flags).ambience music
  | none =>
    dsimp only
    split <;> rfl

/-- Starting a dialog leaves the ambient music as it is: what the dialog brings back at its end is
what played before it. -/
theorem start_ambience {dialog : DialogGraph} {music : Option String} {flags : Flags}
    {turn : Logged Turn} (started : conversation.start dialog music flags = .ok turn) :
    turn.value.conversation.ambience (turn.value.calls.foldl musicAfter music) =
      conversation.ambience music := by
  obtain ⟨idle, node, -, same⟩ := start_ok started
  have before : conversation.ambience music = music := by
    unfold ambience
    rw [idle]
    rfl
  rw [same, before]
  refine (congrArg _ (List.foldl_append ..)).trans (((goTo_restores ..).ambience
    ((openingCalls dialog).foldl musicAfter music)).trans ?_)
  unfold openingCalls
  cases dialog.music with
  | none => cases dialog.firstCharacter? <;> rfl
  | some cue => rfl

/-- Breaking off the running dialog leaves the ambient music as it is. -/
theorem abandon_ambience (conversation : Conversation) (music : Option String) :
    conversation.abandon.value.1.ambience
        (conversation.abandon.value.2.foldl musicAfter music) =
      conversation.ambience music := by
  unfold abandon ambience
  cases running : conversation.session with
  | none =>
    change (conversation.session.bind _).getD music = _
    rw [running]
  | some session =>
    change List.foldl musicAfter music (_ ++ Call.dialogEnd :: restoreCalls session.restore) = _
    rw [List.foldl_append, music_ending]
    cases session.wait <;> rfl

end Conversation

end Narrative
