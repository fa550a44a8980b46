import Narrative.Proofs.Conversation.Resolved
import Narrative.Proofs.Repertoire.Resolved
import Narrative.Proofs.Storyline.Resolved

/-!
# A game meets declared names

Where the lint has no issue about references, a game never meets a name that nothing was declared
under: not in a condition, not in a change of the flags, and not where it looks for a dialog or for
an offer graph. Its flags keep all cells of the bundle, its running dialog is one of the bundle, and
so is what its characters offer; every deed keeps that.
-/

namespace Narrative

namespace Game

variable {η ℓ : Type} [Host η]

/-- A game whose parts come by names of its bundle only. -/
structure Grounded (bundle : Bundle) (config : Config) (game : Game η ℓ) : Prop where
  /-- It plays the bundle. -/
  plays : game.Plays bundle config
  /-- The flags have the cells of the bundle. -/
  covers : game.flags.Covers bundle.flags
  /-- The running dialog refers to names of the bundle. -/
  talking : game.conversation.Resolves bundle
  /-- The characters offer dialogs of the bundle. -/
  offering : game.repertoire.Stored bundle

/-- What is reported, what becomes of the story, and the game that is left come by names of the
bundle only. -/
structure Faithful (bundle : Bundle) (config : Config) (story : List (StoryEvent η ℓ))
    (entries : List Entry) (after : Game η ℓ) : Prop where
  /-- The game. -/
  grounded : after.Grounded bundle config
  /-- The report. -/
  entries : ∀ entry ∈ entries, ¬ entry.Unresolved
  /-- The steps. -/
  story : ∀ step, .stepped step ∈ story → step.Stored bundle

variable {game after : Game η ℓ} {story : List (StoryEvent η ℓ)} {entries : List Entry}
  {bundle : Bundle} {config : Config}

/-- If a game comes by names of its bundle only, so do its deeds. -/
theorem Deed.faithful (resolves : bundle.Resolves)
    (deed : game.Deed Flags.KeepsCells story entries after)
    (grounded : game.Grounded bundle config) : Faithful bundle config story entries after := by
  have plays := deed.plays grounded.plays
  obtain ⟨⟨rfl, -, scenario, -, -, -⟩, covers, talking, offering⟩ := grounded
  have silent : ∀ entry ∈ ([] : List Entry), ¬ entry.Unresolved :=
    fun _ member => absurd member List.not_mem_nil
  have still : ∀ step, .stepped step ∈ ([] : List (StoryEvent η ℓ)) → step.Stored game.bundle :=
    fun _ member => absurd member List.not_mem_nil
  cases deed with
  | surroundings => exact ⟨⟨plays, covers, talking, offering⟩, silent, still⟩
  | reports resolved => exact ⟨⟨plays, covers, talking, offering⟩, resolved.absent, still⟩
  | takes request => exact ⟨⟨plays, covers, talking, offering⟩, silent, by simp⟩
  | handsOn => exact ⟨⟨plays, covers, talking, offering⟩, silent, still⟩
  | rewrites allowed =>
    exact ⟨⟨plays, (allowed game.flags).trans covers, talking, offering⟩, silent, still⟩
  | begins stored accepted =>
    obtain ⟨turn, opened, rfl⟩ := startDialog_ok accepted
    have started := Conversation.start_resolved (resolves.dialogs _ _ stored) covers opened
    have evolves := (Conversation.start_executes opened).evolves
    exact ⟨⟨plays, evolves.covers.trans covers, started.value, offering⟩,
      (started.resolved.map _).absent, still⟩
  | resumes tick =>
    have resumed := Conversation.resume_resolved talking covers tick (Host.animating game.host)
    have evolves := game.conversation.resume_evolves tick (Host.animating game.host) game.flags
    exact ⟨⟨plays, evolves.covers.trans covers, resumed.value, offering⟩,
      (resumed.resolved.map _).absent, still⟩
  | breaksOff =>
    have abandoned := Conversation.abandon_resolved talking
    exact ⟨⟨plays, covers, abandoned.value, offering⟩, (abandoned.resolved.bind (.pure _)).absent,
      still⟩
  | consults character =>
    have asked := Repertoire.select_resolved resolves covers game.repertoire character
    exact ⟨⟨plays, covers, talking, offering⟩, asked.absent, still⟩
  | notes character flags =>
    have asked := Repertoire.select_stored resolves offering character flags
    exact ⟨⟨plays, covers, talking, asked.2⟩, silent, still⟩
  | steps =>
    have authored : ∀ graph, game.storyline.graph = some graph →
        graph.Resolves game.bundle Lint.Target.ofScenarioNode := fun graph known =>
      resolves.scenario graph (scenario.symm.trans known)
    have advanced := Storyline.advance_resolved authored covers
    have evolves := (game.storyline.advance_keeps game.flags).2.2
    refine ⟨⟨plays, evolves.covers.trans covers, talking, offering⟩, advanced.resolved.absent, ?_⟩
    intro step member
    obtain rfl := StoryEvent.stepped.inj (List.mem_singleton.1 member)
    exact advanced.value
  | restarts =>
    -- Starting over breaks off the dialog and looks for the start of the scenario.
    have resolved : game.reset.Resolved := by
      refine .bind (.note (by decide) _) (.bind ?_ (.bind ?_ (.pure _)))
      · exact (Conversation.abandon_resolved talking).resolved.bind (.pure _)
      · exact Storyline.reset_resolved _
    refine ⟨⟨plays, game.flags.reset_covers.trans covers, ?_, ?_⟩, resolved.absent, by simp⟩
    · exact Conversation.resolves_of_idle rfl
    · exact Repertoire.empty_stored _ _

/-- The same for deeds in a row. -/
theorem Deeds.faithful (resolves : bundle.Resolves)
    (deeds : game.Deeds Flags.KeepsCells story entries after)
    (grounded : game.Grounded bundle config) : Faithful bundle config story entries after := by
  induction deeds with
  | none => exact ⟨grounded, by simp, by simp⟩
  | more deed _ ih =>
    have first := deed.faithful resolves grounded
    have rest := ih first.grounded
    refine ⟨rest.grounded, fun entry member => ?_, fun step member => ?_⟩
    · exact (List.mem_append.1 member).elim (first.entries entry) (rest.entries entry)
    · exact (List.mem_append.1 member).elim (first.story step) (rest.story step)

omit [Host η] in
/-- A game is built so that it comes by names of its bundle only. -/
theorem unopened_grounded (bundle : Bundle) (config : Config) (machine : Machine) (host : η)
    (loader : ℓ) :
    (unopened bundle config machine ((Storyline.empty config.tracing).load bundle.scenario).value
      host loader).Grounded bundle config where
  plays := unopened_plays bundle config machine host loader
  covers := fun _ declared => declared
  talking := Conversation.resolves_of_idle rfl
  offering := Repertoire.empty_stored config.tracing bundle

/-- From its opening on a game comes by names of its bundle only. -/
theorem run_faithful (resolves : bundle.Resolves) {host : η} {loader : ℓ} {opened : Game η ℓ}
    [SceneLoader ℓ] (valid : (Game.ofBundle bundle config host loader).value = .ok opened)
    {operations : List (Operation η ℓ)}
    (keeps : ∀ operation ∈ operations, operation.ChangesFlags Flags.KeepsCells) :
    Faithful bundle config (openingStory bundle config host loader ++ opened.runStory operations)
      ((Game.ofBundle bundle config host loader).entries ++ opened.runReport operations)
      (opened.runAll operations) := by
  obtain ⟨machine, entries, reported, opening⟩ := ofBundle_deeds Flags.KeepsCells valid
  have grounded := unopened_grounded bundle config machine host loader
  have run := (opening.append (runAll_deeds keeps)).faithful resolves grounded
  refine ⟨run.grounded, fun entry member => ?_, run.story⟩
  rw [reported, List.append_assoc, List.append_assoc] at member
  obtain entering | member := List.mem_append.1 member
  · exact (Machine.enterState_resolved _ _).absent entry entering
  · obtain loading | member := List.mem_append.1 member
    · exact (Storyline.load_resolved _ _).absent entry loading
    · exact run.entries entry member

/-- Where the lint has no issue about the references of a bundle, a game of it never meets a name
that nothing was declared under, as long as no cell is taken away from its flags. Nothing of the
kind is reported while the game is opened and used; every dialog that a step of the scenario plays
is stored; and whenever a character is asked, the offer graph that applies is there and the dialog
that is offered is stored. A report is missing exactly if the cell of a condition is declared, and
exactly if the answer to a change of a cell is that it is. -/
theorem references_sound {host : η} {loader : ℓ} {opened : Game η ℓ} [SceneLoader ℓ]
    (clean : (Lint.report .standard bundle).Resolves)
    (valid : (Game.ofBundle bundle config host loader).value = .ok opened)
    (operations : List (Operation η ℓ))
    (keeps : ∀ operation ∈ operations, operation.ChangesFlags Flags.KeepsCells) :
    let final := opened.runAll operations
    (∀ entry ∈ (Game.ofBundle bundle config host loader).entries ++ opened.runReport operations,
      ¬ entry.Unresolved) ∧
    (∀ name ending, .stepped (.playDialog name ending) ∈
        openingStory bundle config host loader ++ opened.runStory operations →
      ∃ dialog, final.bundle.dialog name = .ok dialog) ∧
    (∀ character, final.repertoire.Answers final.bundle final.flags character) ∧
    (∀ flags condition,
      (Branch.satisfied flags (some condition)).Resolved ↔
        flags.declares condition.cell = true) ∧
    ∀ (write : Flags.Write) (flags : Flags),
      (write.apply flags).Resolved ↔ (write.apply flags).value.1 = true := by
  intro final
  have resolves := clean.bundle
  have run := run_faithful resolves valid keeps
  have authored : final.bundle = bundle := (runAll_plays valid operations).authored
  rw [authored]
  refine ⟨run.entries, fun name ending member => ?_, fun character => ?_,
    Branch.satisfied_resolved_iff, fun write flags => ?_⟩
  · exact run.story _ member name ending rfl
  · exact Repertoire.select_answers resolves run.grounded.offering run.grounded.covers character
  · obtain ⟨resolved, answer⟩ := write.apply_resolved_iff flags
    rw [resolved, answer]

end Game

/-- A dialog that is told once in full: it raises a flag and counts a coin. -/
def DialogGraph.errand : DialogGraph :=
  ⟨⟨"errand",
    [⟨.start, [⟨Port.exit, some 1⟩]⟩,
      ⟨.branch .automatic
        [⟨"again", some ⟨.flag "met", .equal⟩, 1, []⟩,
          ⟨"first", none, 0, [.activateFlag "met", .setValue "coins" 2]⟩],
        [⟨Port.option 0, some 3⟩, ⟨Port.option 1, some 2⟩]⟩,
      ⟨.event [.addValue "coins" 1], [⟨Port.exit, some 3⟩]⟩, ⟨.finish, []⟩]⟩, none⟩

/-- A story that plays the errand before free roam, where a character offers it to whom it met. -/
def Bundle.errand : Bundle :=
  { Bundle.empty.addDialog .errand with
    scenario := some ⟨"main",
      [⟨.start, [⟨Port.exit, some 1⟩]⟩, ⟨.condition "begun", [⟨Port.exit, some 2⟩]⟩,
        ⟨.event "errand", [⟨Port.exit, some 3⟩]⟩, ⟨.sceneChange .freeRoam, []⟩]⟩
    offers := .ofList
      [("guide", ⟨"guide", [⟨.start, [⟨Port.exit, some 1⟩]⟩,
        ⟨.content "errand" (some ⟨.flag "met", .equal⟩), []⟩]⟩)]
    characters := .ofList [("guide", ⟨[⟨some ⟨.unit "coins", .greaterThan⟩, "guide", 0⟩]⟩)]
    flags := ((Flags.empty.declareUnit "coins" 0 1).declareFlag "met" false).declareFlag "begun"
      false }

/-- The player runs the errand and talks to the character, while the host counts coins. -/
def Operation.errand : List (Operation Recorder InstantLoader) :=
  [.tick (.press ⟨true, false, false⟩), .tick (.press .none),
    .flags fun flags => (flags.addValue "coins" 1).value.2, .talkTo "guide"]

/-- The lint has issues with the errand, but none about references. The scenario raises its flag and
plays the errand, which finds every cell, and the character finds its offer graph and the dialog on
it, so that nothing that is reported is about an undeclared name. -/
theorem Game.references_sound_errand :
    ∃ opened, (Game.ofBundle .errand .staged Recorder.empty InstantLoader.empty).value =
        .ok opened ∧
      let final := opened.runAll Operation.errand
      (Lint.report .standard .errand).isClean = false ∧
        final.flags.Raised "met" ∧ final.repertoire.active? "guide" = some "errand" ∧
        (opened.runReport Operation.errand).length = 7 ∧
        (∀ entry ∈ opened.runReport Operation.errand, ¬ entry.Unresolved) ∧
        ∃ dialog, final.bundle.dialog "errand" = .ok dialog := by
  refine ⟨_, rfl, by decide, ⟨_, rfl, rfl⟩, rfl, rfl, ?_⟩
  have valid : (Game.ofBundle .errand .staged Recorder.empty InstantLoader.empty).value = .ok _ :=
    rfl
  have clean : (Lint.report .standard .errand).Resolves := by
    unfold Lint.Report.Resolves
    decide
  have keeps : ∀ operation ∈ Operation.errand, operation.ChangesFlags Flags.KeepsCells := by
    intro operation member
    simp only [Operation.errand, List.mem_cons, List.not_mem_nil, or_false] at member
    obtain rfl | rfl | rfl | rfl := member
    · trivial
    · trivial
    · exact (Flags.Offered.write (.add "coins" 1)).keepsCells
    · trivial
  obtain ⟨entries, -, answers, -⟩ :=
    Game.references_sound clean valid Operation.errand keeps
  exact ⟨fun entry member => entries entry (List.mem_append_right _ member),
    (answers "guide").offer "errand" rfl⟩

end Narrative
