import Narrative.Conversation
import Narrative.Proofs.Dialog.Staging

/-!
# The ledger of a conversation

Two kinds of calls come in pairs. A dialog that was started is ended by one call, and a panel of
options that was shown is taken away by one call. The ledger of a step says that its calls settle
exactly what the step opens and closes; ledgers of steps in a row add up.
-/

namespace Narrative

open Dialog (Manner Memory Stop Wait)

namespace Call

/-- Whether a call shows a panel of options. -/
def showsPanel : Call → Bool
  | showOptions _ => true
  | _ => false

/-- Whether a call neither ends a dialog nor shows or takes away a panel. -/
def isPlain : Call → Bool
  | dialogEnd => false
  | showOptions _ => false
  | hideOptions => false
  | _ => true

/-- The number of calls that end a dialog. -/
def endings (calls : List Call) : Nat := calls.count .dialogEnd

/-- The number of panels shown and not taken away. -/
def panels (calls : List Call) : Int := calls.countP showsPanel - calls.count .hideOptions

@[simp]
theorem endings_nil : endings [] = 0 := rfl

@[simp]
theorem panels_nil : panels [] = 0 := rfl

@[simp]
theorem endings_append (first second : List Call) :
    endings (first ++ second) = endings first + endings second := List.count_append

@[simp]
theorem panels_append (first second : List Call) :
    panels (first ++ second) = panels first + panels second := by
  unfold panels
  rw [List.countP_append, List.count_append]
  omega

/-- Plain calls end no dialog and change no panel. -/
theorem plain_books {calls : List Call} (plain : ∀ call ∈ calls, call.isPlain = true) :
    endings calls = 0 ∧ panels calls = 0 := by
  have ends : endings calls = 0 :=
    List.count_eq_zero.2 fun ending => Bool.noConfusion (plain _ ending)
  have hides : calls.count .hideOptions = 0 :=
    List.count_eq_zero.2 fun taking => Bool.noConfusion (plain _ taking)
  have shows : calls.countP showsPanel = 0 := by
    rw [List.countP_eq_zero]
    intro call member showing
    have allowed := plain call member
    cases call <;> simp [showsPanel, isPlain] at showing allowed
  refine ⟨ends, ?_⟩
  unfold panels
  rw [shows, hides]
  rfl

/-- There is nothing to settle without calls. -/
theorem plain_nil : ∀ call ∈ ([] : List Call), call.isPlain = true :=
  fun _ member => absurd member List.not_mem_nil

/-- Two calls are plain if each is. -/
theorem plain_pair {first second : Call} (left : first.isPlain = true)
    (right : second.isPlain = true) : ∀ call ∈ [first, second], call.isPlain = true := by
  intro call member
  simp only [List.mem_cons, List.not_mem_nil, or_false] at member
  obtain rfl | rfl := member
  · exact left
  · exact right

end Call

open Call (endings panels)

namespace Dialog

/-- The panels that are open while a dialog waits. -/
def Wait.openPanels : Wait → Int
  | choose .. => 1
  | _ => 0

/-- Effects make plain calls only. -/
theorem plain_applyEffects (tracing : Tracing) (memory : Memory) (effects : List Effect) :
    ∀ call ∈ (applyEffects tracing memory effects).value.2, call.isPlain = true := by
  intro call member
  rw [calls_applyEffects] at member
  obtain ⟨event, -, rfl⟩ := List.mem_map.1 member
  rfl

/-- Staging a line takes plain calls only. -/
theorem plain_staging {calls : List Call} (staging : calls.all Call.isStaging = true) :
    ∀ call ∈ calls, call.isPlain = true := by
  intro call member
  have staged := List.all_eq_true.1 staging call member
  cases call with
  | dialogEnd => cases staged
  | showOptions _ => cases staged
  | hideOptions => cases staged
  | _ => rfl

/-- Revealing a line opens no panel. -/
theorem openPanels_revealLine (manner : Manner) (remaining : List Char) (budget : Duration)
    (speaker : Speaker) : (revealLine manner remaining budget speaker).1.openPanels = 0 := by
  unfold revealLine
  dsimp only
  split <;> rfl

/-- What a walk asks for: no dialog is ended, and a panel is opened exactly if the dialog then
waits for a choice. -/
def Stop.Booked (stop : Stop) : Prop :=
  endings stop.calls = 0 ∧ panels stop.calls = stop.wait.elim 0 Wait.openPanels

/-- A stop after plain calls. -/
theorem Stop.booked_of_plain {stop : Stop}
    (plain : ∀ call ∈ stop.calls, call.isPlain = true)
    (closed : stop.wait.elim 0 Wait.openPanels = 0) : stop.Booked := by
  obtain ⟨ends, shows⟩ := Call.plain_books plain
  exact ⟨ends, shows.trans closed.symm⟩

/-- Plain calls before a walk change nothing in its books. -/
theorem Stop.booked_after {stop : Stop} {calls : List Call}
    (plain : ∀ call ∈ calls, call.isPlain = true) (booked : stop.Booked) :
    (stop.after calls).Booked := by
  obtain ⟨ends, shows⟩ := Call.plain_books plain
  constructor
  · change endings (calls ++ stop.calls) = 0
    rw [Call.endings_append, ends, booked.1]
  · change panels (calls ++ stop.calls) = stop.wait.elim 0 Wait.openPanels
    rw [Call.panels_append, shows, booked.2, Int.zero_add]

/-- The books of a walk. -/
theorem walk_booked (manner : Manner) (dialog : DialogGraph) (bound : Nat) (node : NodeId)
    (character : Option Speaker) (memory : Memory) :
    (walk manner dialog bound node character memory).value.Booked := by
  have stalls : ∀ node character memory calls reason,
      (∀ call ∈ calls, call.isPlain = true) →
      (stall dialog node character memory calls reason).value.Booked :=
    fun _ _ _ _ _ plain => Stop.booked_of_plain plain rfl
  induction bound generalizing node character memory with
  | zero => exact stalls _ _ _ _ _ Call.plain_nil
  | succ bound ih =>
    unfold walk
    split
    · exact stalls _ _ _ _ _ Call.plain_nil
    · next kind _ =>
      rw [Logged.value_bind]
      cases kind with
      | start =>
        dsimp only
        split
        · exact stalls _ _ _ _ _ Call.plain_nil
        · exact ih _ _ _
      | line line =>
        refine Stop.booked_of_plain (fun call member => ?_) (openPanels_revealLine ..)
        obtain opening | text := List.mem_append.1 member
        · exact plain_staging (openLine_staging ..) call opening
        · exact plain_staging (revealLine_staging ..) call text
      | branch mode options =>
        cases mode with
        | player =>
          dsimp only
          split
          · exact stalls _ _ _ _ _ Call.plain_nil
          · exact ⟨rfl, rfl⟩
        | automatic =>
          dsimp only
          rw [Logged.value_bind]
          split
          · exact stalls _ _ _ _ _ Call.plain_nil
          · split
            · exact stalls _ _ _ _ _ Call.plain_nil
            · exact Stop.booked_after (plain_applyEffects _ _ _) (ih _ _ _)
      | event effects =>
        have plain := plain_applyEffects manner.tracing memory effects
        rw [Logged.value_bind]
        dsimp only
        split
        · exact stalls _ _ _ _ _ plain
        · exact Stop.booked_after plain (ih _ _ _)
      | finish =>
        dsimp only
        split
        · exact Stop.booked_of_plain Call.plain_nil rfl
        · exact Stop.booked_of_plain Call.plain_nil rfl

end Dialog

namespace Conversation

/-- The number of dialogs that are running. -/
def openDialogs (conversation : Conversation) : Nat := if conversation.isRunning then 1 else 0

/-- The number of panels that wait for a choice. -/
def openPanels (conversation : Conversation) : Int :=
  if conversation.selected?.isSome then 1 else 0

/-- The calls of a step settle what it starts, ends, shows and takes away. -/
structure Ledger (before : Conversation) (starts : Nat) (calls : List Call)
    (after : Conversation) : Prop where
  /-- What was running or is started is ended, or is running. -/
  endings : endings calls + after.openDialogs = before.openDialogs + starts
  /-- What was shown before or by the step is taken away, or is shown. -/
  panels : before.openPanels + panels calls = after.openPanels

/-- No dialog, and no panel, is open without a session. -/
theorem open_of_idle (conversation : Conversation) (idle : conversation.session = none) :
    conversation.openDialogs = 0 ∧ conversation.openPanels = 0 := by
  unfold openDialogs openPanels isRunning selected?
  rw [idle]
  exact ⟨rfl, rfl⟩

/-- A session is one dialog, with a panel if it waits for a choice. -/
theorem open_of_session (conversation : Conversation) {session : Session}
    (running : conversation.session = some session) :
    conversation.openDialogs = 1 ∧ conversation.openPanels = session.wait.openPanels := by
  unfold openDialogs openPanels isRunning selected?
  rw [running]
  refine ⟨rfl, ?_⟩
  cases wait : session.wait <;> simp [wait, Wait.openPanels]

namespace Ledger

/-- A step that changes no session and makes plain calls only. -/
theorem of_plain {before after : Conversation} {calls : List Call}
    (same : after.session = before.session) (plain : ∀ call ∈ calls, call.isPlain = true) :
    Ledger before 0 calls after := by
  obtain ⟨ends, shows⟩ := Call.plain_books plain
  have dialogs : after.openDialogs = before.openDialogs := by
    unfold openDialogs isRunning
    rw [same]
  have panels : after.openPanels = before.openPanels := by
    unfold openPanels selected?
    rw [same]
  exact ⟨by omega, by omega⟩

/-- Two steps in a row. -/
theorem trans {first second third : Conversation} {starts others : Nat}
    {calls rest : List Call} (left : Ledger first starts calls second)
    (right : Ledger second others rest third) :
    Ledger first (starts + others) (calls ++ rest) third := by
  have leftEnds := left.endings
  have rightEnds := right.endings
  have leftPanels := left.panels
  have rightPanels := right.panels
  constructor
  · rw [Call.endings_append]
    omega
  · rw [Call.panels_append]
    omega

/-- A conversation runs after a step without a start only if it ran before. -/
theorem running {before after : Conversation} {calls : List Call}
    (ledger : Ledger before 0 calls after) (running : after.isRunning = true) :
    before.isRunning = true := by
  have balance := ledger.endings
  unfold openDialogs at balance
  rw [if_pos running] at balance
  split at balance
  · assumption
  · omega

end Ledger

end Conversation

/-- A turn that opens one dialog, or ends it at once. -/
structure Turn.Booked (turn : Turn) : Prop where
  /-- The dialog is ended, or is running. -/
  endings : endings turn.calls + turn.conversation.openDialogs = 1
  /-- What was shown is taken away, or is shown. -/
  panels : panels turn.calls = turn.conversation.openPanels

/-- Calls that settle each other may come before. -/
theorem Turn.booked_after {turn : Turn} {calls : List Call} (booked : turn.Booked)
    (ends : Call.endings calls = 0) (shows : Call.panels calls = 0) :
    (turn.after calls).Booked := by
  constructor
  · change Call.endings (calls ++ turn.calls) + turn.conversation.openDialogs = 1
    rw [Call.endings_append, ends, Nat.zero_add]
    exact booked.endings
  · change Call.panels (calls ++ turn.calls) = turn.conversation.openPanels
    rw [Call.panels_append, shows, Int.zero_add]
    exact booked.panels

namespace Conversation

/-- The calls that end a dialog. -/
theorem ending_books (restore : Option (Option String)) :
    endings (.dialogEnd :: restoreCalls restore) = 1 ∧
      panels (.dialogEnd :: restoreCalls restore) = 0 := by
  obtain none | none | cue := restore <;> exact ⟨rfl, rfl⟩

/-- The books of ending a dialog. -/
theorem finish_booked (conversation : Conversation) (session : Session) (flags : Flags) :
    (finish conversation session flags).value.Booked := by
  obtain ⟨dialogs, opened⟩ := open_of_idle conversation.clear rfl
  obtain ⟨ends, shows⟩ := ending_books session.restore
  constructor
  · exact (congrArg (endings _ + ·) dialogs).trans ends
  · exact shows.trans opened.symm

/-- Where a walk came to is taken over with its books. -/
theorem settle_booked (conversation : Conversation) (session : Session) {stop : Stop}
    (booked : stop.Booked) : (settle conversation session stop).value.Booked := by
  obtain ⟨ends, shows⟩ := booked
  unfold settle
  split
  · next ended =>
    rw [ended] at shows
    exact Turn.booked_after (finish_booked _ session stop.memory.flags) ends shows
  · next wait waiting =>
    rw [waiting] at shows
    obtain ⟨dialogs, opened⟩ := open_of_session
      { conversation with
        requested := stop.memory.requested
        session := some
          { session with node := stop.node, character := stop.character, wait := wait } } rfl
    constructor
    · change endings stop.calls + _ = 1
      rw [ends]
      exact dialogs
    · exact shows.trans opened.symm

/-- The books of going on at another node. -/
theorem goTo_booked (conversation : Conversation) (session : Session) (node : NodeId)
    (memory : Memory) : (goTo conversation session node memory).value.Booked :=
  settle_booked conversation session (Dialog.walk_booked ..)

/-- The books of staying at the node for good. -/
theorem stall_booked (conversation : Conversation) (session : Session) (flags : Flags)
    (reason : Dialog.Stall) : (stall conversation session flags reason).value.Booked :=
  settle_booked conversation session (Dialog.Stop.booked_of_plain Call.plain_nil rfl)

/-- The books of an option that was chosen. -/
theorem choose_booked (conversation : Conversation) (session : Session) (index : Nat)
    (flags : Flags) : (choose conversation session index flags).value.Booked := by
  unfold choose
  split
  · exact stall_booked ..
  · dsimp only
    rw [Logged.value_bind, Logged.value_bind]
    obtain ⟨ends, shows⟩ := Call.plain_books (Dialog.plain_applyEffects _ _ _)
    exact Turn.booked_after (goTo_booked ..) ends shows

/-- Opening a dialog takes plain calls only. -/
theorem plain_openingCalls (dialog : DialogGraph) :
    ∀ call ∈ openingCalls dialog, call.isPlain = true := by
  intro call member
  unfold openingCalls at member
  obtain music | portraits := List.mem_append.1 member
  · obtain cue | player := List.mem_append.1 music
    · obtain ⟨cue, -, rfl⟩ := Option.map_eq_some_iff.1 (Option.mem_toList.1 cue)
      rfl
    · exact Call.plain_pair rfl rfl _ player
  · split at portraits
    · exact Call.plain_pair rfl rfl _ portraits
    · cases portraits

/-- The ledger of starting a dialog. -/
theorem start_ledger {conversation : Conversation} {dialog : DialogGraph} {music : Option String}
    {flags : Flags} {turn : Logged Turn}
    (started : conversation.start dialog music flags = .ok turn) :
    conversation.session = none ∧
      Ledger conversation 1 turn.value.calls turn.value.conversation := by
  unfold start at started
  split at started
  · cases started
  · next idle =>
    split at started
    · cases started
    · obtain rfl := Except.ok.inj started
      obtain ⟨dialogs, opened⟩ := open_of_idle conversation idle
      obtain ⟨ends, shows⟩ := Call.plain_books (plain_openingCalls dialog)
      obtain ⟨ends, shows⟩ := Turn.booked_after (goTo_booked _ _ _ _) ends shows
      refine ⟨idle, ends.trans ?_, Eq.trans ?_ shows⟩
      · rw [dialogs]
      · rw [opened, Int.zero_add]
        rfl

/-- The ledger of a wait that goes on as it was, or as another one with the same panels. -/
theorem keep_ledger {conversation : Conversation} {session : Session} {wait : Wait}
    {calls : List Call} (running : conversation.session = some session) (flags : Flags)
    (panels : wait.openPanels = session.wait.openPanels)
    (plain : ∀ call ∈ calls, call.isPlain = true) :
    Ledger conversation 0 (keep conversation session wait flags calls).calls
      (keep conversation session wait flags calls).conversation := by
  obtain ⟨dialogs, opened⟩ := open_of_session conversation running
  obtain ⟨ends, shows⟩ := Call.plain_books plain
  obtain ⟨after, closed⟩ := open_of_session
    (keep conversation session wait flags calls).conversation rfl
  constructor
  · rw [after, dialogs]
    exact congrArg (· + 1) ends
  · rw [opened, closed]
    exact (congrArg (session.wait.openPanels + ·) shows).trans
      ((Int.add_zero _).trans panels.symm)

/-- The ledger of a session that opens another part of its dialog, once its panels are taken
away. -/
theorem reopen_ledger {conversation : Conversation} {session : Session} {turn : Turn}
    (calls : List Call) (running : conversation.session = some session) (booked : turn.Booked)
    (ends : endings calls = 0) (shows : session.wait.openPanels + panels calls = 0) :
    Ledger conversation 0 (turn.after calls).calls (turn.after calls).conversation := by
  obtain ⟨dialogs, opened⟩ := open_of_session conversation running
  have kept := booked.endings
  have shown := booked.panels
  constructor
  · change endings (calls ++ turn.calls) + turn.conversation.openDialogs = _
    rw [Call.endings_append]
    omega
  · change _ + panels (calls ++ turn.calls) = turn.conversation.openPanels
    rw [Call.panels_append]
    omega

/-- Moving the highlight makes plain calls only. -/
theorem plain_moveHighlight (sounds : SoundCues) (input : Input) (count selected : Nat) :
    ∀ call ∈ (moveHighlight sounds input count selected).2, call.isPlain = true := by
  intro call member
  unfold moveHighlight at member
  split at member
  · exact Call.plain_pair rfl rfl _ member
  · split at member
    · exact Call.plain_pair rfl rfl _ member
    · cases member

/-- The ledger of a running dialog that goes on for one tick. -/
theorem resumeSession_ledger {conversation : Conversation} {session : Session}
    (running : conversation.session = some session) (tick : Tick) (animating : Bool)
    (flags : Flags) :
    Ledger conversation 0 (resumeSession conversation session tick animating flags).value.calls
      (resumeSession conversation session tick animating flags).value.conversation := by
  unfold resumeSession
  dsimp only
  cases waiting : session.wait with
  | reveal remaining budget speaker =>
    have closed := Dialog.openPanels_revealLine conversation.manner remaining
      (budget.add tick.elapsed) speaker
    exact keep_ledger running flags (by rw [waiting]; exact closed)
      (Dialog.plain_staging (Dialog.revealLine_staging ..))
  | confirm =>
    dsimp only
    split
    · split
      · exact reopen_ledger _ running (stall_booked ..) rfl (by rw [waiting]; rfl)
      · exact reopen_ledger _ running (goTo_booked ..) rfl (by rw [waiting]; rfl)
    · exact keep_ledger running flags (by rw [waiting]) Call.plain_nil
  | choose count selected =>
    have plain := plain_moveHighlight conversation.manner.sounds tick.input count selected
    dsimp only
    split
    · obtain ⟨ends, shows⟩ := Call.plain_books plain
      refine reopen_ledger _ running (choose_booked _ _ _ _) ?_ ?_
      · rw [Call.endings_append, ends]
        rfl
      · rw [Call.panels_append, shows, waiting]
        rfl
    · exact keep_ledger running flags (by rw [waiting]; rfl) plain
  | closing remaining =>
    dsimp only
    split
    · exact reopen_ledger [] running (finish_booked _ _ _) rfl (by rw [waiting]; rfl)
    · exact keep_ledger running flags (by rw [waiting]; rfl)
        Call.plain_nil
  | stalled reason =>
    exact keep_ledger running flags (by rw [waiting])
      Call.plain_nil

/-- The ledger of a tick. -/
theorem resume_ledger (conversation : Conversation) (tick : Tick) (animating : Bool)
    (flags : Flags) :
    Ledger conversation 0 (conversation.resume tick animating flags).value.calls
      (conversation.resume tick animating flags).value.conversation := by
  unfold resume
  split
  · next session running => exact resumeSession_ledger running tick animating flags
  · dsimp only
    split <;> exact Ledger.of_plain rfl Call.plain_nil

/-- The ledger of breaking off the running dialog, which leaves none. -/
theorem abandon_ledger (conversation : Conversation) :
    conversation.abandon.value.1.session = none ∧
      Ledger conversation 0 conversation.abandon.value.2 conversation.abandon.value.1 := by
  unfold abandon
  split
  · next idle => exact ⟨idle, Ledger.of_plain rfl Call.plain_nil⟩
  · next session running =>
    refine ⟨rfl, ?_⟩
    obtain ⟨before, opened⟩ := open_of_session conversation running
    obtain ⟨after, closed⟩ := open_of_idle conversation.clear rfl
    obtain ⟨ends, shows⟩ := ending_books session.restore
    rw [Logged.value_bind]
    dsimp only [Logged.value_pure]
    cases waiting : session.wait <;>
      exact ⟨by rw [Call.endings_append, ends, after, before]; rfl,
        by rw [Call.panels_append, shows, closed, opened, waiting]; rfl⟩

end Conversation

end Narrative
