import Narrative.Duration
import Narrative.Format.Document
import Narrative.Kind
import Narrative.Log

/-!
# Configuration

What a game can set without changing its content: the pace of the text, the sound cues, the
states and their scenes, the events on entering free roam, and the filter of the log. Every part
has a standard value, which is also that of an absent field.
-/

namespace Narrative

/-- The pace of the text. -/
structure TextPace where
  /-- The milliseconds from one character to the next. -/
  revealInterval : UInt64
  /-- The milliseconds from the end of a dialog until it closes. -/
  endDelay : UInt64
  deriving DecidableEq, Repr

namespace TextPace

/-- The pace of a shipped game. -/
def standard : TextPace := ⟨50, 100⟩

/-- All text at once, and no wait at the end. -/
def instant : TextPace := ⟨0, 0⟩

/-- The time from one character to the next. -/
def interval (pace : TextPace) : Duration := .ofMilliseconds pace.revealInterval.toNat

/-- The time from the end of a dialog until it closes. -/
def delay (pace : TextPace) : Duration := .ofMilliseconds pace.endDelay.toNat

/-- The stored form. -/
def format : Format TextPace :=
  Format.record
    (.field (.withDefault "reveal_interval_ms" Format.word64 standard.revealInterval) <|
      .field (.withDefault "end_delay_ms" Format.word64 standard.endDelay) .done)
    (fun (revealInterval, endDelay, ()) => ⟨revealInterval, endDelay⟩)
    fun pace => (pace.revealInterval, pace.endDelay, ())

end TextPace

/-- The cues of the interface sounds. -/
structure SoundCues where
  /-- One character of a line appears. -/
  speak : String
  /-- The highlighted option changes. -/
  cursor : String
  /-- An option is chosen. -/
  decide : String
  deriving DecidableEq, Repr

namespace SoundCues

/-- The cues of a shipped game. -/
def standard : SoundCues := ⟨"Speak", "Cursor", "Decide"⟩

/-- The stored form. -/
def format : Format SoundCues :=
  Format.record
    (.field (.withDefault "speak" Format.text standard.speak) <|
      .field (.withDefault "cursor" Format.text standard.cursor) <|
      .field (.withDefault "decide" Format.text standard.decide) .done)
    (fun (speak, cursor, decide, ()) => ⟨speak, cursor, decide⟩)
    fun cues => (cues.speak, cues.cursor, cues.decide, ())

end SoundCues

/-- Which states there are, and what entering them takes. -/
structure StatePlan where
  /-- The scene of each state that has one. -/
  scenes : SortedMap StateKind String
  /-- The states that are entered through the loading state. -/
  requiresLoading : SortedSet StateKind
  /-- The first state. -/
  startup : StateKind
  /-- The states there are. -/
  registered : SortedSet StateKind
  /-- The sub-states of free roam. -/
  subStates : SortedSet SubKind
  deriving DecidableEq

namespace StatePlan

/-- The plan of a shipped game. -/
def standard : StatePlan where
  scenes := .ofList
    [(.title, "MainTitleScene"), (.freeRoam, "FreeRoamScene"), (.battle, "BattleScene"),
      (.puzzle, "PuzzleScene"), (.loading, "LoadingScene"), (.event, "EventScene"),
      (.creditRoll, "CreditRollScene"), (.readCode, "ReadCodeScene")]
  requiresLoading := SortedSet.ofMembers [.battle, .puzzle, .readCode]
  startup := .title
  registered := SortedSet.ofMembers (StateKind.all.filter (· != .loading))
  subStates := SortedSet.ofMembers [.exploration, .dialog, .menu, .event]

/-- The plan of a shipped game without its scenes. -/
def withoutScenes : StatePlan := { standard with scenes := ∅ }

/-- The scene of a state; an empty name is no scene. -/
def scene? (plan : StatePlan) (kind : StateKind) : Option String :=
  (plan.scenes.get? kind).filter (· != "")

/-- The stored form. -/
def format : Format StatePlan :=
  Format.record
    (.field (.withDefault "scenes" (Format.sortedMap Format.text) standard.scenes) <|
      .field (.withDefault "requires_loading" (Format.sortedSet Format.stateKind)
        standard.requiresLoading) <|
      .field (.withDefault "startup" Format.stateKind standard.startup) <|
      .field (.withDefault "registered" (Format.sortedSet Format.stateKind)
        standard.registered) <|
      .field (.withDefault "sub_states" (Format.sortedSet Format.subKind) standard.subStates)
      .done)
    (fun (scenes, requiresLoading, startup, registered, subStates, ()) =>
      ⟨scenes, requiresLoading, startup, registered, subStates⟩)
    fun plan =>
      (plan.scenes, plan.requiresLoading, plan.startup, plan.registered, plan.subStates, ())

end StatePlan

/-- An event on entering free roam after another state. -/
structure EntryRule where
  /-- The state before. -/
  after : StateKind
  /-- The flag that decides. -/
  flag : String
  /-- The event if the flag is raised. -/
  onTrue : Option String
  /-- The event if it is not. -/
  onFalse : Option String
  deriving DecidableEq, Repr

/-- The stored form. -/
def EntryRule.format : Format EntryRule :=
  Format.record
    (.field (.required "after" Format.stateKind) <|
      .field (.required "flag" Format.text) <|
      .field (.optional "on_true" Format.text) <|
      .field (.optional "on_false" Format.text) .done)
    (fun (after, flag, onTrue, onFalse, ()) => ⟨after, flag, onTrue, onFalse⟩)
    fun rule => (rule.after, rule.flag, rule.onTrue, rule.onFalse, ())

/-- What a game can set without changing its content. -/
structure Config where
  /-- The pace of the text. -/
  text : TextPace
  /-- The sound cues. -/
  sounds : SoundCues
  /-- The states and their scenes. -/
  states : StatePlan
  /-- The events on entering free roam, in order. -/
  entryRules : List EntryRule
  /-- The filter of the log. -/
  tracing : Tracing
  deriving DecidableEq

namespace Config

/-- The configuration of a shipped game. -/
def standard : Config := ⟨.standard, .standard, .standard, [], .standard⟩

instance : Inhabited Config := ⟨standard⟩

/-- The configuration of a shipped game with all text at once. -/
def instant : Config := { standard with text := .instant }

/-- The stored form. -/
def format : Format Config :=
  Format.record
    (.field (.withDefault "text" TextPace.format standard.text) <|
      .field (.withDefault "sounds" SoundCues.format standard.sounds) <|
      .field (.withDefault "states" StatePlan.format standard.states) <|
      .field (.withDefault "free_roam_entry" (Format.list EntryRule.format)
        standard.entryRules) <|
      .field (.withDefault "debug" Tracing.format standard.tracing) .done)
    (fun (text, sounds, states, entryRules, tracing, ()) =>
      ⟨text, sounds, states, entryRules, tracing⟩)
    fun config =>
      (config.text, config.sounds, config.states, config.entryRules, config.tracing, ())

/-- The configuration of a text. -/
def ofText (source : String) : Except DocumentError Config := format.ofText source

/-- The complaint about a text that is no configuration, without its cause. -/
def refusal : String := "invalid config"

end Config

end Narrative
