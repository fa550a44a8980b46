import Narrative.Proofs.Game.Plays
import Narrative.Proofs.Lint.References

/-!
# A conversation meets declared names

A dialog whose names resolve evaluates conditions on cells that the flags have, and changes cells
that are declared, wherever its walk comes by.
-/

namespace Narrative

open Dialog (Memory Stop Stall Wait)
open Lint (Target)

variable {bundle : Bundle}

namespace Dialog

/-- An effect changes a cell that is declared. -/
theorem applyEffect_resolved {memory : Memory} (covers : memory.flags.Covers bundle.flags)
    {effect : Effect} (has : bundle.HasAll (Target.ofEffect effect)) (tracing : Tracing) :
    (applyEffect tracing memory effect).Resolved := by
  refine .bind (.optional (by decide) _ _ _) ?_
  cases effect with
  | activateFlag flag =>
    exact .bind (Flags.Write.apply_resolved (.activate flag) covers has.head) (.pure _)
  | setValue cell value =>
    exact .bind (Flags.Write.apply_resolved (.set cell value) covers has.head) (.pure _)
  | addValue cell delta =>
    exact .bind (Flags.Write.apply_resolved (.add cell delta) covers has.head) (.pure _)
  | switchState target =>
    refine .bind ?_ (.pure _)
    unfold reportReplaced
    split
    · exact .pure ()
    · exact .note (by decide) _
  | emit event => exact .pure _

/-- Effects take no cell away. -/
theorem applyEffects_covers {memory : Memory} (covers : memory.flags.Covers bundle.flags)
    (tracing : Tracing) (effects : List Effect) :
    (applyEffects tracing memory effects).value.1.flags.Covers bundle.flags :=
  (applyEffects_evolves tracing memory effects).covers.trans covers

/-- Effects change cells that are declared. -/
theorem applyEffects_resolved {memory : Memory} (covers : memory.flags.Covers bundle.flags)
    {effects : List Effect} (has : bundle.HasAll (effects.flatMap Target.ofEffect))
    (tracing : Tracing) : (applyEffects tracing memory effects).Resolved := by
  induction effects generalizing memory with
  | nil => exact .pure _
  | cons effect rest ih =>
    have changed := (applyEffect_evolves tracing memory effect).covers.trans covers
    have first := applyEffect_resolved covers has.left tracing
    exact .bind first (.bind (ih changed has.right) (.pure _))

/-- A dialog stalls. -/
theorem stall_resolved (dialog : DialogGraph) (node : NodeId) (character : Option Speaker)
    (memory : Memory) (calls : List Call) (reason : Stall) :
    (stall dialog node character memory calls reason).Resolved :=
  .bind (.note (by decide) _) (.pure _)

variable {dialog : DialogGraph} (resolves : dialog.Resolves bundle)
include resolves

/-- The effects of an option of a branch are on declared cells. -/
theorem option_resolves {node : NodeId} {decider : Decider} {options : List DialogOption}
    (known : dialog.graph.kind? node = some (.branch decider options)) (index : Nat) :
    bundle.HasAll (((options[index]?).elim [] DialogOption.effects).flatMap Target.ofEffect) := by
  have has := resolves node (.branch decider options) known
  cases found : options[index]? with
  | none => exact nofun
  | some option => exact (has.of_mem (List.mem_of_getElem? found)).right

/-- A walk meets declared names. -/
theorem walk_resolved (manner : Manner) (bound : Nat) (node : NodeId)
    (character : Option Speaker) {memory : Memory} (covers : memory.flags.Covers bundle.flags) :
    (walk manner dialog bound node character memory).Resolved := by
  induction bound generalizing node character memory with
  | zero => exact stall_resolved ..
  | succ bound ih =>
    unfold walk
    cases known : dialog.graph.kind? node with
    | none => exact stall_resolved ..
    | some kind =>
      refine .bind (.optional (by decide) _ _ _) ?_
      cases kind with
      | start =>
        dsimp only
        split
        · exact stall_resolved ..
        · exact ih _ _ covers
      | line line => exact .pure _
      | branch decider options =>
        cases decider with
        | player =>
          dsimp only
          split
          · exact stall_resolved ..
          · exact .pure _
        | automatic =>
          have has := resolves node (.branch .automatic options) known
          have conditions : (Branch.resolve memory.flags options).Resolved :=
            Branch.resolve_resolved covers fun option among => (has.of_mem among).left
          refine .bind conditions ?_
          cases (Branch.resolve memory.flags options).value with
          | none => exact stall_resolved ..
          | some index =>
            have effects := option_resolves resolves known index
            dsimp only
            split
            · exact stall_resolved ..
            · -- The walk goes on with changed flags, which have the same cells.
              have changed := applyEffects_covers covers manner.tracing
                ((options[index]?).elim [] DialogOption.effects)
              exact .bind (applyEffects_resolved covers effects _)
                (.bind (ih _ _ changed) (.pure _))
      | event effects =>
        have has := resolves node (.event effects) known
        have changed := applyEffects_covers covers manner.tracing effects
        refine .bind (applyEffects_resolved covers has _) ?_
        dsimp only
        split
        · exact stall_resolved ..
        · exact .bind (ih _ _ changed) (.pure _)
      | finish =>
        dsimp only
        split
        · exact .pure _
        · exact .pure _

end Dialog

/-- A conversation whose running dialog refers to names of a bundle only. -/
def Conversation.Resolves (bundle : Bundle) (conversation : Conversation) : Prop :=
  ∀ session, conversation.session = some session → session.dialog.Resolves bundle

/-- A turn that meets declared names, and leaves such a conversation. -/
abbrev Turn.Resolved (bundle : Bundle) (turn : Logged Turn) : Prop :=
  turn.ResolvedTo fun turn => turn.conversation.Resolves bundle

namespace Conversation

variable {conversation : Conversation} {session : Session} {flags : Flags}

/-- A conversation without a dialog refers to nothing. -/
theorem resolves_of_idle (idle : conversation.session = none) : conversation.Resolves bundle := by
  intro session running
  rw [idle] at running
  cases running

/-- A conversation with a dialog refers to what its dialog refers to. -/
theorem resolves_of_running (running : conversation.session = some session)
    (resolves : session.dialog.Resolves bundle) : conversation.Resolves bundle := by
  intro other found
  obtain rfl := Option.some.inj (running.symm.trans found)
  exact resolves

/-- The calls of a turn do not matter. -/
theorem after_resolved {turn : Logged Turn} (resolved : Turn.Resolved bundle turn)
    (calls : List Call) : Turn.Resolved bundle (do let turn ← turn; pure (turn.after calls)) :=
  .bind resolved fun resolves => .pure resolves

/-- The running dialog ends. -/
theorem finish_resolved (conversation : Conversation) (session : Session) (flags : Flags) :
    Turn.Resolved bundle (finish conversation session flags) :=
  .after (.note (by decide) _) (.pure (resolves_of_idle rfl))

/-- What a walk came to is taken over. -/
theorem settle_resolved (conversation : Conversation) (resolves : session.dialog.Resolves bundle)
    (stop : Stop) : Turn.Resolved bundle (settle conversation session stop) := by
  unfold settle
  dsimp only
  split
  · exact after_resolved (finish_resolved _ session _) _
  · exact .pure (resolves_of_running rfl resolves)

/-- The dialog stalls. -/
theorem stall_resolved (conversation : Conversation) (resolves : session.dialog.Resolves bundle)
    (flags : Flags) (reason : Stall) :
    Turn.Resolved bundle (stall conversation session flags reason) :=
  .after (Dialog.stall_resolved _ _ _ _ _ _) (settle_resolved _ resolves _)

/-- A dialog goes on at a node. -/
theorem goTo_resolved (conversation : Conversation) (resolves : session.dialog.Resolves bundle)
    {memory : Memory} (covers : memory.flags.Covers bundle.flags) (node : NodeId) :
    Turn.Resolved bundle (goTo conversation session node memory) :=
  .after (Dialog.walk_resolved resolves _ _ node _ covers) (settle_resolved _ resolves _)

/-- An option is chosen. -/
theorem choose_resolved (conversation : Conversation) (resolves : session.dialog.Resolves bundle)
    (covers : flags.Covers bundle.flags) (index : Nat) :
    Turn.Resolved bundle (choose conversation session index flags) := by
  unfold choose
  split
  · exact stall_resolved _ resolves flags _
  · refine .after (.optional (by decide) _ _ _) ?_
    refine .after (Dialog.applyEffects_resolved covers ?_ _) (after_resolved ?_ _)
    · -- The option is one of the branch that the dialog stands on, or has no effects.
      split
      · next known => exact Dialog.option_resolves resolves known index
      · exact fun _ member => absurd member List.not_mem_nil
    · exact goTo_resolved _ resolves (Dialog.applyEffects_covers covers _ _) _

/-- A running dialog goes on for one tick. -/
theorem resumeSession_resolved (conversation : Conversation)
    (resolves : session.dialog.Resolves bundle) (covers : flags.Covers bundle.flags) (tick : Tick)
    (animating : Bool) :
    Turn.Resolved bundle (resumeSession conversation session tick animating flags) := by
  have keeps (wait : Wait) (calls : List Call) :
      Turn.Resolved bundle (pure (keep conversation session wait flags calls)) :=
    .pure (resolves_of_running rfl resolves)
  unfold resumeSession
  dsimp only
  cases session.wait with
  | reveal remaining budget speaker => exact keeps _ _
  | confirm =>
    dsimp only
    split
    · split
      · exact after_resolved (stall_resolved _ resolves flags _) _
      · exact after_resolved (goTo_resolved _ resolves covers _) _
    · exact keeps _ _
  | choose count selected =>
    dsimp only
    split
    · exact after_resolved (choose_resolved _ resolves covers _) _
    · exact keeps _ _
  | closing remaining =>
    dsimp only
    split
    · exact finish_resolved _ session flags
    · exact keeps _ _
  | stalled reason => exact keeps _ _

/-- A conversation goes on for one tick. -/
theorem resume_resolved (resolves : conversation.Resolves bundle)
    (covers : flags.Covers bundle.flags) (tick : Tick) (animating : Bool) :
    Turn.Resolved bundle (conversation.resume tick animating flags) := by
  unfold resume
  cases running : conversation.session with
  | some session =>
    exact resumeSession_resolved _ (resolves session running) covers tick animating
  | none =>
    dsimp only
    split
    · exact .after (.note (by decide) _) (.pure (resolves_of_idle rfl))
    · exact .pure (resolves_of_idle rfl)

/-- A dialog starts. -/
theorem start_resolved {dialog : DialogGraph} (resolves : dialog.Resolves bundle)
    (covers : flags.Covers bundle.flags) {music : Option String} {turn : Logged Turn}
    (accepted : conversation.start dialog music flags = .ok turn) : Turn.Resolved bundle turn := by
  unfold start at accepted
  split at accepted
  · cases accepted
  · split at accepted
    · cases accepted
    · cases accepted
      refine .after (.note (by decide) _) (after_resolved ?_ _)
      exact goTo_resolved _ resolves covers _

/-- The running dialog is broken off. -/
theorem abandon_resolved (resolves : conversation.Resolves bundle) :
    conversation.abandon.ResolvedTo fun left => left.1.Resolves bundle := by
  unfold abandon
  split
  · exact .pure resolves
  · exact .after (.note (by decide) _) (.pure (resolves_of_idle rfl))

end Conversation

end Narrative
