import Narrative.Proofs.Conversation.Integrity
import Narrative.Proofs.Flags
import Narrative.Proofs.Game.Deed

/-!
# A game plays its bundle

What the authors wrote, and the settings, stay with a game and with its parts throughout. The flags
change one cell at a time, until the story starts over.
-/

namespace Narrative

open Dialog (Memory)

namespace Dialog

/-- One effect changes one cell of the flags at most. -/
theorem applyEffect_evolves (tracing : Tracing) (memory : Memory) (effect : Effect) :
    memory.flags.Evolves (applyEffect tracing memory effect).value.1.flags := by
  cases effect with
  | activateFlag flag => exact Flags.Write.evolves (.activate flag) memory.flags
  | setValue cell value => exact Flags.Write.evolves (.set cell value) memory.flags
  | addValue cell delta => exact Flags.Write.evolves (.add cell delta) memory.flags
  | _ => exact .refl memory.flags

/-- Effects change the flags one cell at a time. -/
theorem applyEffects_evolves (tracing : Tracing) (memory : Memory) (effects : List Effect) :
    memory.flags.Evolves (applyEffects tracing memory effects).value.1.flags := by
  induction effects generalizing memory with
  | nil => exact .refl memory.flags
  | cons effect rest ih => exact (applyEffect_evolves tracing memory effect).trans (ih _)

end Dialog

/-- A turn changes the flags one cell at a time. -/
theorem Turn.Executes.evolves {conversation : Conversation} {flags : Flags}
    {effects : List Effect} {turn : Turn} (executes : turn.Executes conversation flags effects) :
    flags.Evolves turn.flags := by
  have same : turn.flags = (Dialog.applyEffects conversation.manner.tracing
      (conversation.memory flags) effects).value.1.flags :=
    congrArg Memory.flags executes.memory
  rw [same]
  exact Dialog.applyEffects_evolves _ (conversation.memory flags) effects

/-- Going on for one tick changes the flags one cell at a time. -/
theorem Conversation.resume_evolves (conversation : Conversation) (tick : Tick) (animating : Bool)
    (flags : Flags) : flags.Evolves (conversation.resume tick animating flags).value.flags := by
  by_cases running : conversation.isRunning = true
  · exact (resume_executes running tick animating flags).evolves
  · have idle : conversation.session = none := Option.not_isSome_iff_eq_none.1 running
    unfold resume
    rw [idle]
    dsimp only
    split <;> exact .refl flags

namespace Storyline

/-- A condition raises its flag, and other nodes leave the flags alone. -/
theorem pass_evolves (kind : ScenarioNode) (flags : Flags) :
    flags.Evolves (pass kind flags).value := by
  cases kind with
  | condition flag => exact Flags.Write.evolves (.activate flag) flags
  | _ => exact .refl flags

/-- A walk raises the flags of the conditions that it passes. -/
theorem walk_evolves (tracing : Tracing) (graph : ScenarioGraph) (bound : Nat) (node : NodeId)
    (flags : Flags) : flags.Evolves (walk tracing graph bound node flags).value.flags := by
  induction bound generalizing node flags with
  | zero => exact .refl flags
  | succ bound ih =>
    unfold walk
    rw [Logged.value_bind]
    cases (leave graph node flags).value with
    | none => exact .refl flags
    | some next =>
      dsimp only
      cases graph.kind? next with
      | none => exact .refl flags
      | some kind =>
        dsimp only
        rw [Logged.value_bind]
        cases stepOf kind with
        | some step => exact .refl flags
        | none => exact (pass_evolves kind flags).trans (ih next _)

/-- An advance changes the flags one cell at a time, and keeps the scenario. -/
theorem advance_keeps (storyline : Storyline) (flags : Flags) :
    let came := (storyline.advance flags).value
    came.2.1.graph = storyline.graph ∧ came.2.1.tracing = storyline.tracing ∧
      flags.Evolves came.2.2 := by
  unfold advance
  split
  · exact ⟨rfl, rfl, walk_evolves _ _ _ _ flags⟩
  · dsimp only
    split <;> exact ⟨rfl, rfl, .refl flags⟩

/-- Starting over keeps the scenario. -/
theorem reset_keeps (storyline : Storyline) :
    storyline.reset.value.graph = storyline.graph ∧
      storyline.reset.value.tracing = storyline.tracing := by
  unfold reset
  split <;> exact ⟨rfl, rfl⟩

end Storyline

/-- Asking a character keeps the filter of the log. -/
theorem Repertoire.select_keeps (repertoire : Repertoire) (bundle : Bundle) (character : String)
    (flags : Flags) :
    (repertoire.select bundle character flags).value.2.tracing = repertoire.tracing := by
  unfold select
  split
  · rfl
  · rw [Logged.value_bind]
    split
    · rfl
    · split
      · rfl
      · split
        · rfl
        · unfold stepIn
          dsimp only [Logged.value_bind]
          split <;> split <;> rfl

namespace Game

variable {η ℓ : Type} [Host η]

/-- A game that plays a bundle under a configuration. -/
structure Plays (bundle : Bundle) (config : Config) (game : Game η ℓ) : Prop where
  /-- The bundle is its own. -/
  authored : game.bundle = bundle
  /-- So is the configuration. -/
  configured : game.config = config
  /-- The scenario is that of the bundle. -/
  scenario : game.storyline.graph = bundle.scenario
  /-- The scenario is followed as the configuration says. -/
  followed : game.storyline.tracing = config.tracing
  /-- Dialogs are presented as the configuration says. -/
  talking : game.conversation.Integral (Conversation.ofConfig config).manner
  /-- Offers are followed as the configuration says. -/
  offering : game.repertoire.tracing = config.tracing

variable {permitted : (Flags → Flags) → Prop} {game after : Game η ℓ}
  {story : List (StoryEvent η ℓ)} {entries : List Entry} {bundle : Bundle} {config : Config}

/-- A deed keeps the bundle and the configuration. -/
theorem Deed.plays (deed : game.Deed permitted story entries after)
    (plays : game.Plays bundle config) : after.Plays bundle config := by
  obtain ⟨authored, configured, scenario, followed, talking, offering⟩ := plays
  cases deed with
  | surroundings => exact ⟨authored, configured, scenario, followed, talking, offering⟩
  | reports => exact ⟨authored, configured, scenario, followed, talking, offering⟩
  | consults => exact ⟨authored, configured, scenario, followed, talking, offering⟩
  | takes => exact ⟨authored, configured, scenario, followed, talking, offering⟩
  | rewrites => exact ⟨authored, configured, scenario, followed, talking, offering⟩
  | begins stored accepted =>
    obtain ⟨turn, opened, value⟩ := startDialog_cases accepted
    have begun := Conversation.start_integral talking opened
    rw [value]
    exact ⟨authored, configured, scenario, followed, begun.conversation, offering⟩
  | resumes tick =>
    have resumed := talking.obey (.resume tick (Host.animating game.host) game.flags)
    exact ⟨authored, configured, scenario, followed, resumed, offering⟩
  | breaksOff =>
    exact ⟨authored, configured, scenario, followed, talking.obey .abandon, offering⟩
  | handsOn =>
    exact ⟨authored, configured, scenario, followed, talking.obey .takeRequested, offering⟩
  | notes character flags =>
    have asked := game.repertoire.select_keeps game.bundle character flags
    exact ⟨authored, configured, scenario, followed, talking, asked.trans offering⟩
  | steps =>
    obtain ⟨graph, tracing, -⟩ := game.storyline.advance_keeps game.flags
    exact ⟨authored, configured, graph.trans scenario, tracing.trans followed, talking, offering⟩
  | restarts =>
    obtain ⟨graph, tracing⟩ := game.storyline.reset_keeps
    have forgotten := (talking.obey .abandon).obey .reset
    exact ⟨authored, configured, graph.trans scenario, tracing.trans followed, forgotten, offering⟩

/-- Deeds keep the bundle and the configuration. -/
theorem Deeds.plays (deeds : game.Deeds permitted story entries after)
    (plays : game.Plays bundle config) : after.Plays bundle config := by
  induction deeds with
  | none => exact plays
  | more deed _ ih => exact ih (deed.plays plays)

/-- The flags after a deed, and whether the story starts over in it. -/
theorem Deed.flags_cases (deed : game.Deed permitted story entries after) :
    (∀ before, .restarted before ∉ story) ∧
        (game.flags.Evolves after.flags ∨
          ∃ change, permitted change ∧ after.flags = change game.flags) ∨
      story = [.restarted game] ∧ after = game.reset.value := by
  have nothing (before : Game η ℓ) : .restarted before ∉ ([] : List (StoryEvent η ℓ)) :=
    List.not_mem_nil
  have unmoved (same : after.flags = game.flags) :
      game.flags.Evolves after.flags ∨
        ∃ change, permitted change ∧ after.flags = change game.flags :=
    .inl (same ▸ .refl game.flags)
  cases deed with
  | begins stored accepted =>
    obtain ⟨turn, opened, value⟩ := startDialog_cases accepted
    have evolves := (Conversation.start_executes opened).evolves
    rw [value]
    exact .inl ⟨nothing, .inl evolves⟩
  | resumes tick =>
    have evolves := game.conversation.resume_evolves tick (Host.animating game.host) game.flags
    exact .inl ⟨nothing, .inl evolves⟩
  | steps => exact .inl ⟨by simp, .inl (game.storyline.advance_keeps game.flags).2.2⟩
  | restarts => exact .inr ⟨rfl, rfl⟩
  | rewrites allowed => exact .inl ⟨nothing, .inr ⟨_, allowed, rfl⟩⟩
  | takes request => exact .inl ⟨by simp, unmoved rfl⟩
  | _ => exact .inl ⟨nothing, unmoved rfl⟩

omit [Host η] in
/-- A game plays the bundle that it is built with. -/
theorem unopened_plays (bundle : Bundle) (config : Config) (machine : Machine) (host : η)
    (loader : ℓ) :
    (unopened bundle config machine ((Storyline.empty config.tracing).load bundle.scenario).value
      host loader).Plays bundle config := by
  have loaded : ((Storyline.empty config.tracing).load bundle.scenario).value.graph =
        bundle.scenario ∧
      ((Storyline.empty config.tracing).load bundle.scenario).value.tracing = config.tracing := by
    unfold Storyline.load
    cases bundle.scenario <;> exact ⟨rfl, rfl⟩
  exact ⟨rfl, rfl, loaded.1, loaded.2, Conversation.integral_of_idle rfl rfl, rfl⟩

/-- A game plays the bundle that it was opened with, whatever happens to it. -/
theorem runAll_plays [SceneLoader ℓ] {host : η} {loader : ℓ} {opened : Game η ℓ}
    (valid : (Game.ofBundle bundle config host loader).value = .ok opened)
    (operations : List (Operation η ℓ)) : (opened.runAll operations).Plays bundle config := by
  obtain ⟨machine, _, -, opening⟩ := ofBundle_deeds (fun _ => True) valid
  have used : opened.Deeds (fun _ => True) _ _ (opened.runAll operations) :=
    runAll_deeds fun operation _ => operation.changesFlags
  exact (opening.append used).plays (unopened_plays bundle config machine host loader)

end Game

end Narrative
