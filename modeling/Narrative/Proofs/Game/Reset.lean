import Narrative.Proofs.Game.Plays
import Narrative.Proofs.Storyline.Unstalled

/-!
# Starting over

Whatever a game has been through, starting over brings back the flags, the storyline, the
conversation and the repertoire of a game that was only just built from the same bundle under the
same configuration. Until then nothing takes a raised flag back, and the cells stay as the authors
declared them.
-/

namespace Narrative

namespace Game

variable {η ℓ : Type} [Host η] {game after : Game η ℓ} {story : List (StoryEvent η ℓ)}
  {entries : List Entry} {bundle : Bundle} {config : Config}

/-- A game that can start over: it plays its bundle, and its cells are those of the bundle. -/
structure Remembers (bundle : Bundle) (config : Config) (game : Game η ℓ) : Prop extends
    Plays bundle config game where
  /-- The authors wrote its cells. -/
  cells : game.flags.reset = bundle.flags.reset

/-- A game whose story is that of a new game. -/
structure Fresh (bundle : Bundle) (config : Config) (game : Game η ℓ) : Prop where
  /-- The flags are the authored ones. -/
  flags : game.flags = bundle.flags
  /-- The scenario is at its start. -/
  storyline : game.storyline = ((Storyline.empty config.tracing).load bundle.scenario).value
  /-- No dialog is running, and none asked for a state. -/
  conversation : game.conversation = .ofConfig config
  /-- No character was asked. -/
  repertoire : game.repertoire = .empty config.tracing

/-- A deed keeps the cells, and so did the game that starts over in it. -/
theorem Deed.remembers (deed : game.Deed Flags.IsWrite story entries after)
    (remembers : game.Remembers bundle config) :
    after.Remembers bundle config ∧
      ∀ before, .restarted before ∈ story → before.Remembers bundle config := by
  have plays := deed.plays remembers.toPlays
  obtain ⟨quiet, evolves | ⟨change, ⟨write, changes⟩, value⟩⟩ | ⟨rfl, rfl⟩ := deed.flags_cases
  · exact ⟨⟨plays, evolves.cells.trans remembers.cells⟩,
      fun before member => absurd member (quiet before)⟩
  · refine ⟨⟨plays, ?_⟩, fun before member => absurd member (quiet before)⟩
    rw [value, changes, write.reset_apply]
    exact remembers.cells
  · refine ⟨⟨plays, (Flags.reset_reset game.flags).trans remembers.cells⟩, fun before member => ?_⟩
    obtain rfl : before = game := by simpa using member
    exact remembers

/-- Deeds keep the cells, and so did every game that starts over in them. -/
theorem Deeds.remembers (deeds : game.Deeds Flags.IsWrite story entries after)
    (remembers : game.Remembers bundle config) :
    after.Remembers bundle config ∧
      ∀ before, .restarted before ∈ story → before.Remembers bundle config := by
  induction deeds with
  | none => exact ⟨remembers, fun before member => absurd member List.not_mem_nil⟩
  | more deed _ ih =>
    obtain ⟨between, early⟩ := deed.remembers remembers
    obtain ⟨after, late⟩ := ih between
    exact ⟨after, fun before member => (List.mem_append.1 member).elim (early before) (late before)⟩

/-- A raised flag stays raised in a deed in which the story does not start over. -/
theorem Deed.raised (deed : game.Deed Flags.IsWrite story entries after) {flag : String}
    (raised : game.flags.Raised flag) :
    (∀ before, .restarted before ∉ story) ∧ after.flags.Raised flag ∨
      story = [.restarted game] := by
  obtain ⟨quiet, evolves | ⟨change, ⟨write, changes⟩, value⟩⟩ | ⟨restarts, -⟩ := deed.flags_cases
  · exact .inl ⟨quiet, evolves.raised flag raised⟩
  · refine .inl ⟨quiet, ?_⟩
    rw [value, changes]
    exact write.raised_apply raised
  · exact .inr restarts

/-- A raised flag stays raised if the story does not start over. -/
theorem Deeds.raised (deeds : game.Deeds Flags.IsWrite story entries after) {flag : String}
    (raised : game.flags.Raised flag) (quiet : ∀ before, .restarted before ∉ story) :
    after.flags.Raised flag := by
  induction deeds with
  | none => exact raised
  | more deed _ ih =>
    obtain ⟨-, still⟩ | rfl := deed.raised raised
    · exact ih still fun before member => quiet before (List.mem_append_right _ member)
    · exact absurd List.mem_cons_self (quiet _)

/-- A raised flag stays raised until the story starts over for the first time. -/
theorem Deeds.raised_until (deeds : game.Deeds Flags.IsWrite story entries after) {flag : String}
    (raised : game.flags.Raised flag) {quiet rest : List (StoryEvent η ℓ)} {before : Game η ℓ}
    (split : story = quiet ++ .restarted before :: rest)
    (silent : ∀ other, .restarted other ∉ quiet) : before.flags.Raised flag := by
  induction deeds generalizing quiet with
  | none => simp at split
  | @more game between after story later entries others deed _ ih =>
    obtain ⟨none, still⟩ | rfl := deed.raised raised
    · -- The story does not start over in this deed, so it does in a later one.
      obtain ⟨more, rfl, later⟩ | ⟨more, rfl, early⟩ := List.append_eq_append_iff.1 split
      · exact ih still later fun other member => silent other (List.mem_append_right _ member)
      · cases more with
        | nil =>
          have now : later = [] ++ .restarted before :: rest := early.symm
          exact ih still now fun _ => List.not_mem_nil
        | cons first others =>
          obtain rfl := (List.cons.inj early).1
          exact absurd (List.mem_append_right _ List.mem_cons_self) (none before)
    · cases quiet with
      | nil =>
        obtain rfl := StoryEvent.restarted.inj (List.cons.inj split).1
        exact raised
      | cons first others =>
        obtain rfl := (List.cons.inj split).1
        exact absurd List.mem_cons_self (silent game)

/-- A game that can start over is, when it does, as good as new. -/
theorem Remembers.reset_fresh (remembers : game.Remembers bundle config)
    (pristine : bundle.flags.Pristine) : game.reset.value.Fresh bundle config where
  flags := remembers.cells.trans pristine.reset
  storyline := by
    change game.storyline.reset.value = _
    unfold Storyline.reset Storyline.load
    rw [remembers.scenario, remembers.followed]
    cases bundle.scenario <;> rfl
  conversation := by
    have manner :
        game.conversation.abandon.value.1.manner = (Conversation.ofConfig config).manner :=
      (remembers.talking.obey .abandon).manner
    change Conversation.mk game.conversation.abandon.value.1.manner none none false = _
    rw [manner]
    rfl
  repertoire := congrArg Repertoire.empty remembers.offering

omit [Host η] in
/-- A fresh game that plays its bundle can start over. -/
theorem Fresh.remembers (fresh : game.Fresh bundle config) (plays : game.Plays bundle config) :
    game.Remembers bundle config := ⟨plays, congrArg Flags.reset fresh.flags⟩

omit [Host η] in
/-- A game with the story of a fresh one is fresh. -/
theorem Fresh.congr (fresh : game.Fresh bundle config) (flags : after.flags = game.flags)
    (storyline : after.storyline = game.storyline)
    (conversation : after.conversation = game.conversation)
    (repertoire : after.repertoire = game.repertoire) : after.Fresh bundle config :=
  ⟨flags.trans fresh.flags, storyline.trans fresh.storyline,
    conversation.trans fresh.conversation, repertoire.trans fresh.repertoire⟩

/-- A fresh game stays fresh if it starts over because that is pending. -/
theorem Fresh.resetIfPending (fresh : game.Fresh bundle config) (plays : game.Plays bundle config)
    (pristine : bundle.flags.Pristine) : game.resetIfPending.value.Fresh bundle config := by
  unfold Game.resetIfPending
  split
  · exact (fresh.remembers plays).reset_fresh pristine
  · exact fresh

/-- A fresh game stays fresh when it reacts: no dialog is there to be played or broken off. -/
theorem Fresh.react (fresh : game.Fresh bundle config) (plays : game.Plays bundle config)
    (pristine : bundle.flags.Pristine) (notice : Notice) :
    (game.react notice).value.Fresh bundle config := by
  by_cases departing : notice.isArrival = false
  · rw [game.react_departure_value departing]
    have idle : game.conversation.abandon.value = (game.conversation, []) := by
      unfold Conversation.abandon
      rw [fresh.conversation]
      rfl
    split
    · exact fresh.congr rfl rfl (congrArg Prod.fst idle) rfl
    · exact fresh
  · unfold Game.react
    rw [Logged.value_bind]
    cases notice with
    | entered kind =>
      cases kind with
      | freeRoam =>
        have ready := fresh.resetIfPending plays pristine
        change game.onFreeRoamEntered.value.Fresh bundle config
        obtain ⟨event, value⟩ | value := game.onFreeRoamEntered_cases
        · rw [value]
          exact ready.congr rfl rfl rfl rfl
        · rw [value]
          obtain same | ⟨sub, -, -, explored⟩ := game.resetIfPending.value.explore_cases
          · rw [same]
            exact ready
          · rw [explored]
            exact ready.congr rfl rfl rfl rfl
      | event =>
        have unplayed : game.storyline.dialog = none := by
          rw [fresh.storyline]
          unfold Storyline.load
          cases bundle.scenario <;> rfl
        have stays : game.onEventEntered.value = game := by
          unfold onEventEntered
          rw [unplayed]
          rfl
        change game.onEventEntered.value.Fresh bundle config
        rw [stays]
        exact fresh
      | _ => exact fresh.congr rfl rfl rfl rfl
    | _ => exact absurd rfl departing

/-- A fresh game stays fresh when it reacts in order. -/
theorem Fresh.reactAll (fresh : game.Fresh bundle config) (plays : game.Plays bundle config)
    (pristine : bundle.flags.Pristine) (notices : List Notice) :
    (game.reactAll notices).value.Fresh bundle config := by
  induction notices generalizing game with
  | nil => exact fresh
  | cons notice rest ih =>
    have reacted := Deeds.plays (react_does (fun _ => False) game notice) plays
    exact ih (fresh.react plays pristine notice) reacted

/-- A fresh game stays fresh when it reacts in batches. -/
theorem Fresh.reactBatches (fresh : game.Fresh bundle config) (plays : game.Plays bundle config)
    (pristine : bundle.flags.Pristine) (bound : Nat) :
    (Game.reactBatches bound game).value.Fresh bundle config := by
  induction bound generalizing game with
  | zero => exact fresh
  | succ bound ih =>
    have taken : (game.withMachine game.machine.takeNotices.2).Fresh bundle config :=
      fresh.congr rfl rfl rfl rfl
    have still : (game.withMachine game.machine.takeNotices.2).Plays bundle config := by
      obtain ⟨authored, configured, scenario, followed, talking, offering⟩ := plays
      exact ⟨authored, configured, scenario, followed, talking, offering⟩
    unfold Game.reactBatches
    dsimp only
    split
    · exact taken
    · have reacted := Deeds.plays
        (reactAll_does (fun _ => False) (game.withMachine _) game.machine.takeNotices.1) still
      exact ih (taken.reactAll still pristine _) reacted

omit [Host η] in
/-- What a game is built as is fresh. -/
theorem unopened_fresh (bundle : Bundle) (config : Config) (machine : Machine) (host : η)
    (loader : ℓ) :
    (unopened bundle config machine ((Storyline.empty config.tracing).load bundle.scenario).value
      host loader).Fresh bundle config := ⟨rfl, rfl, rfl, rfl⟩

/-- A game that was only just opened is fresh. -/
theorem ofBundle_fresh (pristine : bundle.flags.Pristine) {host : η} {loader : ℓ}
    {opened : Game η ℓ} (valid : (Game.ofBundle bundle config host loader).value = .ok opened) :
    opened.Fresh bundle config := by
  obtain ⟨machine, -, rfl⟩ := ofBundle_cases valid
  exact (unopened_fresh bundle config machine host loader).reactBatches
    (unopened_plays bundle config machine host loader) pristine 3

variable [SceneLoader ℓ]

/-- In a run in which the flags are changed one cell at a time, the cells and what the authors wrote
about them never change, and a raised flag stays raised until the story starts over. Whenever it
does, in the run or after it, the flags, the storyline, the conversation and the repertoire are then
those of a game that was only just opened with the same bundle and configuration, whatever the host
and the loader of that game. -/
theorem reset_erases_history {host : η} {loader : ℓ} {opened : Game η ℓ}
    (valid : (Game.ofBundle bundle config host loader).value = .ok opened)
    (pristine : bundle.flags.Pristine) (operations : List (Operation η ℓ))
    (writes : ∀ operation ∈ operations, operation.ChangesFlags Flags.IsWrite) :
    let final := opened.runAll operations
    (∀ name, final.flags.authoredUnit? name = bundle.flags.authoredUnit? name ∧
        final.flags.authoredFlag? name = bundle.flags.authoredFlag? name) ∧
      (∀ earlier later flag, operations = earlier ++ later →
        (opened.runAll earlier).flags.Raised flag →
          let story := (opened.runAll earlier).runStory later
          ((∀ before, .restarted before ∉ story) → final.flags.Raised flag) ∧
            ∀ quiet before rest, story = quiet ++ .restarted before :: rest →
              (∀ other, .restarted other ∉ quiet) → before.flags.Raised flag) ∧
      ∀ before, before = final ∨
          .restarted before ∈ openingStory bundle config host loader ++ opened.runStory operations →
        ∀ (place : η) (scenes : ℓ) (fresh : Game η ℓ),
          (Game.ofBundle bundle config place scenes).value = .ok fresh →
            before.reset.value.flags = fresh.flags ∧
              before.reset.value.storyline = fresh.storyline ∧
              before.reset.value.conversation = fresh.conversation ∧
              before.reset.value.repertoire = fresh.repertoire := by
  intro final
  obtain ⟨machine, _, -, opening⟩ := ofBundle_deeds Flags.IsWrite valid
  have built : (unopened bundle config machine _ host loader).Remembers bundle config :=
    (unopened_fresh bundle config machine host loader).remembers
      (unopened_plays bundle config machine host loader)
  obtain ⟨remembers, early⟩ := opening.remembers built
  obtain ⟨still, late⟩ := (runAll_deeds writes).remembers remembers
  refine ⟨Flags.authored_of_reset still.cells, fun earlier later flag split raised => ?_,
    fun before among place scenes fresh new => ?_⟩
  · subst split
    have others : (opened.runAll earlier).Deeds Flags.IsWrite _ _
        ((opened.runAll earlier).runAll later) :=
      runAll_deeds fun operation member => writes operation (List.mem_append_right _ member)
    have row : (opened.runAll earlier).runAll later = final :=
      (opened.runAll_append earlier later).symm
    rw [row] at others
    exact ⟨others.raised raised, fun quiet before rest => others.raised_until raised⟩
  · have remembered : before.Remembers bundle config := by
      obtain rfl | member := among
      · exact still
      · exact (List.mem_append.1 member).elim (early before) (late before)
    have restarted := remembered.reset_fresh pristine
    have begun := ofBundle_fresh pristine new
    exact ⟨restarted.flags.trans begun.flags.symm, restarted.storyline.trans begun.storyline.symm,
      restarted.conversation.trans begun.conversation.symm,
      restarted.repertoire.trans begun.repertoire.symm⟩

end Game

/-- The player starts the quest, which raises its flag and plays a dialog, and then starts over in
the middle of it. -/
def Operation.relapse : List (Operation Recorder InstantLoader) :=
  [.tick (.press ⟨true, false, false⟩), .reset]

/-- Before the quest starts over its flag is raised, its dialog is running, and the scenario stands
where it is played. After that all is as it was. -/
theorem Game.reset_erases_history_quest :
    ∃ opened, (Game.ofBundle .quest .staged Recorder.empty InstantLoader.empty).value =
        .ok opened ∧
      let played := opened.runAll [.tick (.press ⟨true, false, false⟩)]
      played.flags.Raised "found" ∧ played.conversation.isRunning = true ∧
        played.storyline.dialog = some "hello" ∧
        opened.runStory Operation.relapse = [.stepped (.playDialog "hello" false),
          .taken (.switch .event), .restarted played] ∧
        played.reset.value.flags = opened.flags ∧
        played.reset.value.storyline = opened.storyline ∧
        played.reset.value.conversation = opened.conversation ∧
        played.reset.value.repertoire = opened.repertoire := by
  refine ⟨_, rfl, ⟨_, rfl, rfl⟩, rfl, rfl, rfl, ?_⟩
  have valid : (Game.ofBundle .quest .staged Recorder.empty InstantLoader.empty).value = .ok _ :=
    rfl
  have pristine : Bundle.quest.flags.Pristine := by
    refine ⟨nofun, fun name cell found => ?_⟩
    have only : (name, cell) ∈ [("found", FlagCell.declare false)] := SortedMap.mem_of_get? found
    obtain rfl := (Prod.mk.inj (List.mem_singleton.1 only)).2
    rfl
  have writes : ∀ operation ∈ Operation.relapse, operation.ChangesFlags Flags.IsWrite := by
    intro operation member
    simp only [Operation.relapse, List.mem_cons, List.not_mem_nil, or_false] at member
    obtain rfl | rfl := member <;> trivial
  obtain ⟨-, -, again⟩ := Game.reset_erases_history valid pristine Operation.relapse writes
  refine again _ (.inr ?_) Recorder.empty InstantLoader.empty _ valid
  exact List.mem_append_right _ (List.mem_cons_of_mem _ (List.mem_cons_of_mem _ List.mem_cons_self))

end Narrative
