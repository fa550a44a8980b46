import Narrative.Proofs.Dialog.Route
import Narrative.Proofs.Game.Attendance

/-!
# Talking to a character

Talking to a character either leaves the game as it was, or starts one dialog in the dialog
sub-state. What can go wrong after the dialog was started, that free roam is not active or has no
such sub-state, was checked before; and a game that is explored plays no dialog that could be in
the way.
-/

namespace Narrative

open Dialog (Manner Memory Stop Wait)

namespace Conversation

/-- Where the walk comes to that starts a dialog at a node. -/
def openingStop (conversation : Conversation) (dialog : DialogGraph) (node : NodeId)
    (flags : Flags) : Stop :=
  (Dialog.run conversation.manner dialog node dialog.firstCharacter?
    (conversation.memory flags)).value

/-- A dialog that reaches its end before it has to wait. -/
def EndsAtOnce (conversation : Conversation) (dialog : DialogGraph) (flags : Flags) : Prop :=
  ∃ node, dialog.graph.start = .ok node ∧
    (conversation.openingStop dialog node flags).wait = none ∧
    dialog.graph.kind? (conversation.openingStop dialog node flags).node = some .finish

/-- A walk that has nothing to wait for has reached an end. -/
theorem openingStop_finish {conversation : Conversation} {dialog : DialogGraph} {node : NodeId}
    {flags : Flags} (ceased : (conversation.openingStop dialog node flags).wait = none) :
    dialog.graph.kind? (conversation.openingStop dialog node flags).node = some .finish := by
  have warrant : (conversation.openingStop dialog node flags).Warranted dialog :=
    (Dialog.walk_recounts ..).warrant
  unfold Stop.Warranted at warrant
  rw [ceased] at warrant
  exact warrant

/-- What a walk comes to is the end of the dialog, or a session of that dialog. -/
theorem settle_session (conversation : Conversation) (session : Session) (stop : Stop) :
    (stop.wait = none ∧ (settle conversation session stop).value.progress = .done ∧
        (settle conversation session stop).value.conversation.session = none) ∨
      (stop.wait ≠ none ∧ (settle conversation session stop).value.progress ≠ .done ∧
        (settle conversation session stop).value.conversation.session.map Session.dialog =
          some session.dialog) := by
  unfold settle
  cases stop.wait with
  | none => exact .inl ⟨rfl, rfl, rfl⟩
  | some wait => exact .inr ⟨Option.some_ne_none wait, progress_ne_done wait, rfl⟩

/-- A dialog that starts is over if it ends at once, and runs otherwise. -/
theorem start_session {conversation : Conversation} {dialog : DialogGraph} {music : Option String}
    {flags : Flags} {turn : Logged Turn}
    (started : conversation.start dialog music flags = .ok turn) :
    (conversation.EndsAtOnce dialog flags ∧ turn.value.progress = .done ∧
        turn.value.conversation.session = none) ∨
      (¬conversation.EndsAtOnce dialog flags ∧ turn.value.progress ≠ .done ∧
        turn.value.conversation.session.map Session.dialog = some dialog) := by
  obtain ⟨-, node, begins, value⟩ := start_ok started
  rw [value]
  have settled := settle_session { conversation with idleReported := false }
    ⟨dialog, node, .confirm, dialog.firstCharacter?, dialog.music.map fun _ => music⟩
    (conversation.openingStop dialog node flags)
  rcases settled with ⟨ceased, done, ended⟩ | ⟨waits, unfinished, runs⟩
  · exact .inl ⟨⟨node, begins, ceased, openingStop_finish ceased⟩, done, ended⟩
  · refine .inr ⟨?_, unfinished, runs⟩
    rintro ⟨other, there, ceased, -⟩
    obtain rfl := Except.ok.inj (begins.symm.trans there)
    exact waits ceased

/-- A dialog is refused because another one is running, or because its graph has no start. -/
theorem start_error {conversation : Conversation} {dialog : DialogGraph} {music : Option String}
    {flags : Flags} {error : StartError}
    (refused : conversation.start dialog music flags = .error error) :
    conversation.isRunning = true ∨
      dialog.graph.start? = none ∧ error = .graph (.missingStart dialog.graph.name) := by
  unfold start at refused
  unfold isRunning
  cases running : conversation.session with
  | some session => exact .inl rfl
  | none =>
    right
    rw [running] at refused
    dsimp only at refused
    unfold Graph.start at refused
    cases begins : dialog.graph.start? with
    | some node =>
      rw [begins] at refused
      cases refused
    | none =>
      rw [begins] at refused
      exact ⟨rfl, (Except.error.inj refused).symm⟩

end Conversation

namespace Game

variable {η ℓ : Type} {game after : Game η ℓ} {character : String}

/-- Why a character cannot be talked to, and the error that tells it. -/
inductive Refuses (game : Game η ℓ) (character : String) : InteractionError → Prop
  /-- Free roam is not active. -/
  | away (elsewhere : game.machine.freeRoam = .error .notFreeRoam) :
      Refuses game character (.machine .notFreeRoam)
  /-- No sub-state of free roam is current. -/
  | nowhere {sub : SubMachine} (roaming : game.machine.freeRoam = .ok sub)
      (vacant : sub.current = none) : Refuses game character (.machine .notFreeRoam)
  /-- Free roam has no sub-state for dialogs. -/
  | voiceless {sub : SubMachine} (roaming : game.machine.freeRoam = .ok sub)
      (unregistered : sub.isRegistered .dialog = false) :
      Refuses game character (.machine (.unknownSubState .dialog))
  /-- Another sub-state than exploration is current. -/
  | busy {sub : SubMachine} {kind : SubKind} (roaming : game.machine.freeRoam = .ok sub)
      (current : sub.current = some kind) (elsewhere : kind ≠ .exploration) :
      Refuses game character (.busy kind)
  /-- The character has nothing to offer. -/
  | silent (nothing : (game.repertoire.select game.bundle character game.flags).value.1 = none) :
      Refuses game character (.noDialog character)
  /-- There is no dialog of the name that the character offers. -/
  | unknown {name : String}
      (offered : (game.repertoire.select game.bundle character game.flags).value.1 = some name)
      (missing : game.bundle.dialogs.get? name = none) :
      Refuses game character (.graph (.unknownGraph name))
  /-- The dialog that the character offers has no start. -/
  | startless {name : String} {dialog : DialogGraph}
      (offered : (game.repertoire.select game.bundle character game.flags).value.1 = some name)
      (stored : game.bundle.dialogs.get? name = some dialog)
      (missing : dialog.graph.start? = none) :
      Refuses game character (.dialog (.graph (.missingStart dialog.graph.name)))

/-- Why free roam cannot be approached. -/
theorem approachable_error {error : InteractionError}
    (refused : game.approachable = .error error) : game.Refuses character error := by
  unfold approachable at refused
  cases roaming : game.machine.freeRoam with
  | error other =>
    rw [roaming] at refused
    obtain rfl := Except.error.inj refused
    have same : other = .notFreeRoam := by
      unfold Machine.freeRoam at roaming
      split at roaming
      · split at roaming
        · cases roaming
        · exact (Except.error.inj roaming).symm
      · exact (Except.error.inj roaming).symm
    subst same
    exact .away roaming
  | ok sub =>
    rw [roaming] at refused
    dsimp only at refused
    cases current : sub.current with
    | none =>
      rw [current] at refused
      obtain rfl := Except.error.inj refused
      exact .nowhere roaming current
    | some kind =>
      rw [current] at refused
      by_cases exploring : kind = .exploration
      · subst exploring
        by_cases registered : sub.isRegistered .dialog = true
        · simp [registered] at refused
        · have same : error = .machine (.unknownSubState .dialog) := by
            simpa [registered] using refused.symm
          rw [same]
          exact .voiceless roaming (Bool.eq_false_iff.2 registered)
      · have same : error = .busy kind := by
          cases kind with
          | exploration => exact absurd rfl exploring
          | _ => exact (Except.error.inj refused).symm
        rw [same]
        exact .busy roaming current exploring

/-- What a character offers, or why nothing comes of it. -/
theorem offerOf_outcome (game : Game η ℓ) (character : String) :
    (∃ error, (game.offerOf character).value = .error error ∧ game.Refuses character error) ∨
      ∃ name dialog,
        (game.repertoire.select game.bundle character game.flags).value.1 = some name ∧
        game.bundle.dialogs.get? name = some dialog ∧
        (game.offerOf character).value = .ok (name, dialog,
          (game.repertoire.select game.bundle character game.flags).value.2) := by
  unfold offerOf
  rw [Logged.value_bind]
  dsimp only
  cases offered : (game.repertoire.select game.bundle character game.flags).value.1 with
  | none => exact .inl ⟨_, rfl, .silent offered⟩
  | some name =>
    dsimp only
    unfold Bundle.dialog
    cases stored : game.bundle.dialogs.get? name with
    | none => exact .inl ⟨_, rfl, .unknown offered stored⟩
    | some dialog => exact .inr ⟨name, dialog, rfl, stored, rfl⟩

variable [Host η]

/-- Settling what breaks nothing off only tells it. -/
theorem reactBatches_harmless (bound : Nat)
    (harmless : ∀ notice ∈ game.machine.queue,
      notice.isArrival = false ∧ notice.breaksOff = false) :
    ∃ machine, (reactBatches bound game).value = game.withMachine machine ∧
      game.machine.Agrees machine ∧ (game.withMachine machine).subRequest? = game.subRequest? := by
  induction bound generalizing game with
  | zero => exact ⟨game.machine, rfl, .refl _, rfl⟩
  | succ bound ih =>
    obtain ⟨agrees, told⟩ := game.withMachine_taken
    have asked := game.subRequest?_taken
    unfold reactBatches
    dsimp only
    split
    · exact ⟨_, rfl, agrees, asked⟩
    · rw [Logged.value_bind, Machine.takeNotices_fst, reactAll_harmless _ harmless]
      have silent : ∀ notice ∈ (game.withMachine game.machine.takeNotices.2).machine.queue,
          notice.isArrival = false ∧ notice.breaksOff = false := by
        rw [told]
        exact fun _ member => absurd member List.not_mem_nil
      obtain ⟨machine, settled, same, request⟩ := ih silent
      exact ⟨machine, settled, agrees.trans same, request.trans asked⟩

/-- A game that turned to a dialog: the dialog sub-state is current, and the dialog is running,
unless it ended at once; then exploration is asked for. -/
structure Conversing (game : Game η ℓ) (dialog : DialogGraph) (after : Game η ℓ) : Prop where
  /-- The dialog sub-state is current. -/
  talking : after.currentSubState? = some .dialog
  /-- The dialog is running. -/
  running : ¬game.conversation.EndsAtOnce dialog game.flags →
    after.conversation.session.map Session.dialog = some dialog
  /-- A dialog that ended at once is over, and exploration is asked for. -/
  ceased : game.conversation.EndsAtOnce dialog game.flags →
    after.conversation.isRunning = false ∧ after.subRequest? = some .exploration

omit [Host η] in
/-- A conversation that joined free roam has its sub-state there, and if it is over, asks for
exploration. -/
theorem joined_talking {sub : SubMachine} (found : game.machine.subMachine? = some sub)
    (registered : sub.isRegistered .dialog = true) (progress : Progress) :
    (game.joined sub progress).machine.subKind? = some .dialog ∧
      (progress = .done → (game.joined sub progress).subRequest? = some .exploration) := by
  have placed : (game.joined sub progress).machine.subMachine? = some (sub.joined progress) :=
    (forwardRequest_asks (game.withSubMachine (sub.joined progress))).subMachine?.trans
      (Machine.subMachine?_withSubMachine found _)
  unfold Machine.subKind? subRequest?
  rw [placed]
  constructor
  · exact (sub.joined_keeps progress).1
  · intro ended
    have known : (sub.exit.enter .dialog).isRegistered .dialog = true :=
      (SubMachine.isRegistered_replace ..).trans ((sub.isRegistered_exit _).trans registered)
    unfold SubMachine.joined
    rw [if_pos ended]
    exact SubMachine.pendingRequest?_request rfl known .exploration

/-- A dialog that a game starts is over if it ends at once, and runs otherwise. -/
theorem startDialog_session {dialog : DialogGraph} {started : Logged (Progress × Game η ℓ)}
    (accepted : game.startDialog dialog = .ok started) :
    (game.conversation.EndsAtOnce dialog game.flags ∧ started.value.1 = .done ∧
        started.value.2.conversation.session = none) ∨
      (¬game.conversation.EndsAtOnce dialog game.flags ∧ started.value.1 ≠ .done ∧
        started.value.2.conversation.session.map Session.dialog = some dialog) := by
  obtain ⟨turn, opened, value⟩ := startDialog_cases accepted
  rw [value]
  exact Conversation.start_session opened

/-- What talking to a character comes to while the game is at rest: a refusal, or a conversation
that started. -/
theorem talkTo_cases (rest : game.AtRest) (character : String) :
    (∃ error, (game.talkTo character).value = (.error error, game) ∧
        game.Refuses character error) ∨
      ∃ sub name dialog repertoire, ∃ started : Logged (Progress × Game η ℓ),
        game.approachable = .ok sub ∧
        (game.offerOf character).value = .ok (name, dialog, repertoire) ∧
        game.startDialog dialog = .ok started ∧
        (game.talkTo character).value = (.ok (),
          (({ started.value.2 with repertoire := repertoire } : Game η ℓ).joined sub
            started.value.1).settle.value) := by
  unfold talkTo
  cases approachable : game.approachable with
  | error error => exact .inl ⟨error, rfl, approachable_error approachable⟩
  | ok sub =>
    obtain ⟨roaming, exploring, registered⟩ := approachable_cases approachable
    dsimp only
    rw [Logged.value_bind]
    rcases game.offerOf_outcome character with ⟨error, refused, refuses⟩ |
      ⟨name, dialog, offered, stored, offers⟩
    · rw [refused]
      exact .inl ⟨error, rfl, refuses⟩
    · rw [offers]
      dsimp only
      rw [Logged.value_bind]
      cases accepted : game.startDialog dialog with
      | error error =>
        left
        refine ⟨.dialog error, rfl, ?_⟩
        unfold startDialog at accepted
        split at accepted
        · next failed =>
          obtain rfl := Except.error.inj accepted
          rcases Conversation.start_error failed with running | ⟨missing, rfl⟩
          · rw [rest.idle_of_exploring roaming exploring] at running
            cases running
          · exact .startless offered stored missing
        · cases accepted
      | ok started =>
        right
        refine ⟨sub, name, dialog, _, started, rfl, rfl, accepted, ?_⟩
        let turned : Game η ℓ :=
          { started.value.2 with
            repertoire := (game.repertoire.select game.bundle character game.flags).value.2 }
        have roams : turned.machine.freeRoam = .ok sub :=
          (congrArg Machine.freeRoam (startDialog_keeps accepted).1).trans roaming
        dsimp only
        rw [Logged.value_bind]
        unfold turnToDialog
        rw [Logged.value_bind, joinDialog_joined roams registered started.value.1]
        rfl

/-- A conversation that was started and joined free roam, once that was told. -/
theorem joined_conversing (rest : game.AtRest) {sub : SubMachine}
    (approachable : game.approachable = .ok sub) {dialog : DialogGraph}
    {started : Logged (Progress × Game η ℓ)} (accepted : game.startDialog dialog = .ok started)
    (repertoire : Repertoire) :
    let turned : Game η ℓ := { started.value.2 with repertoire := repertoire }
    game.Conversing dialog (turned.joined sub started.value.1).settle.value ∧
      (turned.joined sub started.value.1).settle.value.repertoire = repertoire ∧
      (turned.joined sub started.value.1).settleAttempts = [] := by
  intro turned
  obtain ⟨roaming, exploring, registered⟩ := approachable_cases approachable
  have same : turned.machine = game.machine := (startDialog_keeps accepted).1
  have roams : turned.machine.freeRoam = .ok sub := same ▸ roaming
  obtain ⟨-, found⟩ := Machine.freeRoam_eq_ok_iff.1 roams
  obtain ⟨talking, asking⟩ := joined_talking found registered started.value.1
  have orderly := joined_orderly (same ▸ rest.sound) (same ▸ rest.told) roams exploring
    started.value.1
  have settledRest := reactBatches_departures 1 orderly
  have silent : (turned.joined sub started.value.1).settleAttempts = [] :=
    reactionsTrace_departures reactionAttempts_departure orderly 2
  have harmless : ∀ notice ∈ (turned.joined sub started.value.1).machine.queue,
      notice.isArrival = false ∧ notice.breaksOff = false := by
    rw [orderly.queue]
    decide
  obtain ⟨machine, settled, agrees, request⟩ := reactBatches_harmless 3 harmless
  -- Settling only tells the notices, so that the conversation is that of the start.
  have session : (turned.joined sub started.value.1).settle.value.conversation.session =
      started.value.2.conversation.session :=
    (congrArg (fun game : Game η ℓ => game.conversation.session) settled).trans
      (forwardRequest_asks (turned.withSubMachine (sub.joined started.value.1))).session
  have handed (given : Game η ℓ) : given.forwardRequest.value.2.repertoire = given.repertoire := by
    unfold forwardRequest
    dsimp only
    split <;> rfl
  have kept : (turned.joined sub started.value.1).settle.value.repertoire = repertoire :=
    (congrArg Game.repertoire settled).trans (handed _)
  refine ⟨⟨?_, ?_, ?_⟩, kept, silent⟩
  · refine (currentSubState?_eq settledRest.sound).trans ?_
    rw [settled]
    exact agrees.subKind.trans talking
  · intro unended
    rw [session]
    rcases startDialog_session accepted with ⟨ended, -, -⟩ | ⟨-, -, runs⟩
    · exact absurd ended unended
    · exact runs
  · intro ended
    rcases startDialog_session accepted with ⟨-, done, ceased⟩ | ⟨unended, -, -⟩
    · constructor
      · unfold Conversation.isRunning
        rw [session, ceased]
        rfl
      · change (reactBatches 3 _).value.subRequest? = _
        rw [settled, request]
        exact asking done
    · exact absurd ended unended

/-- The attempts of talking to a character that is heard: one, which starts the dialog. -/
theorem talkAttempts_accepted {sub : SubMachine} (approachable : game.approachable = .ok sub)
    {name : String} {dialog : DialogGraph} {repertoire : Repertoire}
    (offered : (game.offerOf character).value = .ok (name, dialog, repertoire))
    {started : Logged (Progress × Game η ℓ)} (accepted : game.startDialog dialog = .ok started)
    (silent : (({ started.value.2 with repertoire := repertoire } : Game η ℓ).joined sub
      started.value.1).settleAttempts = []) :
    game.talkAttempts character = [⟨game, dialog⟩] := by
  obtain ⟨roaming, -, registered⟩ := approachable_cases approachable
  have roams : ({ started.value.2 with repertoire := repertoire } : Game η ℓ).machine.freeRoam =
      .ok sub := (congrArg Machine.freeRoam (startDialog_keeps accepted).1).trans roaming
  unfold talkAttempts talkTrace turnTrace
  rw [approachable]
  dsimp only
  rw [offered]
  dsimp only
  rw [accepted]
  dsimp only
  rw [joinDialog_joined roams registered started.value.1]
  exact congrArg _ silent

end Game

/-- Whatever has happened to a game, talking to a character either is refused for a reason that
holds, and leaves everything as it was; or it starts exactly one dialog, the one that the character
offers, in the dialog sub-state, which notes the offer. -/
theorem talkTo_all_or_nothing {η ℓ : Type} [Host η] [SceneLoader ℓ] {bundle : Bundle}
    {config : Config} {host : η} {loader : ℓ} {opened : Game η ℓ}
    (valid : (Game.ofBundle bundle config host loader).value = .ok opened)
    (operations : List (Operation η ℓ)) (character : String) :
    let game := opened.runAll operations
    let result := (game.talkTo character).value.1
    let after := (game.talkTo character).value.2
    (∀ error, result = .error error → after = game ∧ game.Refuses character error) ∧
      (result = .ok () → ∃ name dialog repertoire,
        (game.offerOf character).value = .ok (name, dialog, repertoire) ∧
        game.talkAttempts character = [⟨game, dialog⟩] ∧
        startsOf (game.talkAttempts character) = 1 ∧
        game.Conversing dialog after ∧ after.repertoire = repertoire) := by
  intro game result after
  have rest := Game.runAll_atRest (Game.ofBundle_atRest valid).1 operations
  rcases Game.talkTo_cases rest character with ⟨error, value, refuses⟩ |
    ⟨sub, name, dialog, repertoire, started, approachable, offered, accepted, value⟩
  · constructor
    · intro other failed
      have same : (.error error : Except InteractionError Unit) = .error other :=
        (congrArg Prod.fst value).symm.trans failed
      obtain rfl := Except.error.inj same
      exact ⟨congrArg Prod.snd value, refuses⟩
    · intro succeeded
      have same : (.error error : Except InteractionError Unit) = .ok () :=
        (congrArg Prod.fst value).symm.trans succeeded
      cases same
  · constructor
    · intro error failed
      have same : (.ok () : Except InteractionError Unit) = .error error :=
        (congrArg Prod.fst value).symm.trans failed
      cases same
    · intro _
      obtain ⟨conversing, noted, silent⟩ := Game.joined_conversing rest approachable accepted
        repertoire
      have attempts := Game.talkAttempts_accepted approachable offered accepted silent
      have left : after = _ := congrArg Prod.snd value
      refine ⟨name, dialog, repertoire, offered, attempts, ?_, left ▸ conversing, left ▸ noted⟩
      have counted : startsOf [(⟨opened.runAll operations, dialog⟩ : Attempt η ℓ)] = 1 :=
        startsOf_accepted ⟨opened.runAll operations, dialog⟩ [] accepted
      rw [attempts]
      exact counted

/-- The guide can be talked to, who then is busy talking; nobody else has anything to say. -/
theorem talkTo_all_or_nothing_talking :
    ∃ opened, (Game.ofBundle .greeting .roaming Recorder.empty InstantLoader.empty).value =
        .ok opened ∧
      (opened.Conversing .greeting (opened.talkTo "guide").value.2) ∧
      opened.Refuses "stranger" (.noDialog "stranger") ∧
      ((opened.runAll [.talkTo "guide"]).talkTo "guide").value.2 =
        opened.runAll [.talkTo "guide"] ∧
      (opened.runAll [.talkTo "guide"]).Refuses "guide" (.busy .dialog) := by
  refine ⟨_, rfl, ?_⟩
  have valid : (Game.ofBundle .greeting .roaming Recorder.empty InstantLoader.empty).value =
    .ok _ := rfl
  obtain ⟨name, dialog, repertoire, offered, -, -, conversing, -⟩ :=
    (talkTo_all_or_nothing valid [] "guide").2 rfl
  obtain rfl : DialogGraph.greeting = dialog :=
    congrArg (fun offer => offer.2.1) (Except.ok.inj offered)
  have unheard := (talkTo_all_or_nothing valid [] "stranger").1 _ rfl
  have again := (talkTo_all_or_nothing valid [.talkTo "guide"] "guide").1 _ rfl
  exact ⟨conversing, unheard.2, again.1, again.2⟩

end Narrative
