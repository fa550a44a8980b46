import Mathlib.Data.List.Infix
import Narrative.Proofs.Dialog.Arrival
import Narrative.Proofs.Dialog.Reveal

/-!
# Portraits

Who is shown and who talks is nowhere remembered but in the calls that the host was asked for. Of
the characters at most one is shown at any time: another one is brought up only after the first was
hidden. A speaker talks from the start of a line until the line is whole.
-/

namespace Narrative

open Dialog (Manner Stop Wait)

namespace Call

/-- Whether a call shows the portrait of a speaker or hides it; none if it does neither. -/
def portrays? (speaker : Speaker) : Call → Option Bool
  | showSpeaker other => if other = speaker then some true else none
  | hideSpeaker other => if other = speaker then some false else none
  | _ => none

/-- Whether a call lets a speaker start to talk or stop; none if it does neither. -/
def voices? (speaker : Speaker) : Call → Option Bool
  | setTalking other talking => if other = speaker then some talking else none
  | _ => none

/-- What the last of those calls tells that tell something. -/
def last? (tells : Call → Option Bool) (calls : List Call) : Option Bool :=
  (calls.filterMap tells).getLast?

/-- If the last call tells nothing, what those before tell counts. -/
theorem last?_concat (tells : Call → Option Bool) (calls : List Call) (call : Call) :
    last? tells (calls ++ [call]) = (tells call).or (last? tells calls) := by
  unfold last?
  rw [List.filterMap_append, List.getLast?_append]
  cases told : tells call with
  | none => rw [List.filterMap_cons_none told]; rfl
  | some _ => rw [List.filterMap_cons_some told]; rfl

end Call

namespace Speaker

/-- Whether the portrait of a speaker is shown after some calls: of those that show or hide it, the
last one shows it. -/
def Shown (speaker : Speaker) (calls : List Call) : Prop :=
  Call.last? (Call.portrays? speaker) calls = some true

/-- Whether a speaker talks after some calls: of those that let it start or stop, the last one lets
it start. -/
def Talks (speaker : Speaker) (calls : List Call) : Prop :=
  Call.last? (Call.voices? speaker) calls = some true

/-- Who talks while the line of a speaker is revealed: nobody if that is the narrator. -/
def voice? (speaker : Speaker) : Option Speaker :=
  if speaker = .narrator then none else some speaker

variable {speaker other : Speaker} {calls : List Call} {call : Call}

/-- A portrait is shown on as long as a call does not touch it. -/
theorem shown_concat (mute : call.portrays? speaker = none) :
    speaker.Shown (calls ++ [call]) ↔ speaker.Shown calls := by
  unfold Shown
  rw [Call.last?_concat, mute, Option.none_or]

/-- A portrait that is shown. -/
theorem shown_concat_show :
    speaker.Shown (calls ++ [.showSpeaker other]) ↔ other = speaker ∨ speaker.Shown calls := by
  unfold Shown
  rw [Call.last?_concat]
  change (if other = speaker then some true else none).or _ = some true ↔ _
  by_cases same : other = speaker
  · rw [if_pos same]
    exact ⟨fun _ => .inl same, fun _ => rfl⟩
  · rw [if_neg same, Option.none_or, or_iff_right same]

/-- A portrait that is hidden. -/
theorem shown_concat_hide :
    speaker.Shown (calls ++ [.hideSpeaker other]) ↔ other ≠ speaker ∧ speaker.Shown calls := by
  unfold Shown
  rw [Call.last?_concat]
  change (if other = speaker then some false else none).or _ = some true ↔ _
  by_cases same : other = speaker
  · rw [if_pos same]
    exact ⟨nofun, fun hidden => absurd same hidden.1⟩
  · rw [if_neg same, Option.none_or, and_iff_right same]

/-- A speaker talks on as long as a call does not concern it. -/
theorem talks_concat (mute : call.voices? speaker = none) :
    speaker.Talks (calls ++ [call]) ↔ speaker.Talks calls := by
  unfold Talks
  rw [Call.last?_concat, mute, Option.none_or]

/-- A speaker that starts to talk or stops. -/
theorem talks_concat_setTalking {talking : Bool} :
    speaker.Talks (calls ++ [.setTalking other talking]) ↔
      if other = speaker then talking = true else speaker.Talks calls := by
  unfold Talks
  rw [Call.last?_concat]
  change (if other = speaker then some talking else none).or _ = some true ↔ _
  by_cases same : other = speaker
  · rw [if_pos same, if_pos same]
    exact Option.some_inj
  · rw [if_neg same, if_neg same, Option.none_or]

end Speaker

/-- Who talks while a dialog waits. -/
def Dialog.Wait.voice? : Wait → Option Speaker
  | reveal _ _ speaker => speaker.voice?
  | _ => none

namespace Call

/-- Calls that show one character at a time: one is shown only while no other one is. The character
that is shown after them is part of the statement. -/
inductive Portrays : List Call → Option Speaker → Prop where
  /-- Without calls nobody is shown. -/
  | blank : Portrays [] none
  /-- A call that neither shows nor hides a character. -/
  | other {calls : List Call} {shown : Option Speaker} {call : Call}
      (portrays : Portrays calls shown)
      (mute : ∀ name, call.portrays? (.character name) = none) : Portrays (calls ++ [call]) shown
  /-- A character is shown, who is shown already or finds nobody shown. -/
  | appear {calls : List Call} {shown : Option Speaker} {name : String}
      (portrays : Portrays calls shown) (alone : ∀ other ∈ shown, other = .character name) :
      Portrays (calls ++ [.showSpeaker (.character name)]) (some (.character name))
  /-- The character that is shown is hidden. -/
  | vanish {calls : List Call} {speaker : Speaker} (portrays : Portrays calls (some speaker)) :
      Portrays (calls ++ [.hideSpeaker speaker]) none

variable {calls earlier : List Call} {shown : Option Speaker}

/-- The character that is shown. -/
theorem Portrays.shown_iff (portrays : Portrays calls shown) (name : String) :
    (Speaker.character name).Shown calls ↔ shown = some (.character name) := by
  induction portrays with
  | blank => exact ⟨nofun, nofun⟩
  | other _ mute ih => rw [Speaker.shown_concat (mute name), ih]
  | appear _ alone ih =>
    rw [Speaker.shown_concat_show, ih, Option.some_inj]
    exact or_iff_left_of_imp fun up => (alone _ up).symm
  | vanish _ ih =>
    rw [Speaker.shown_concat_hide, ih, Option.some_inj]
    exact ⟨fun ⟨hidden, up⟩ => absurd up hidden, nofun⟩

/-- Calls that show one character at a time do so from the first on. -/
theorem Portrays.of_prefix (portrays : Portrays calls shown) (before : earlier <+: calls) :
    ∃ up, Portrays earlier up := by
  induction portrays with
  | blank =>
    rw [List.prefix_nil.1 before]
    exact ⟨none, .blank⟩
  | other portrays mute ih =>
    obtain rfl | before := List.prefix_concat_iff.1 before
    · exact ⟨_, .other portrays mute⟩
    · exact ih before
  | appear portrays alone ih =>
    obtain rfl | before := List.prefix_concat_iff.1 before
    · exact ⟨_, .appear portrays alone⟩
    · exact ih before
  | vanish portrays ih =>
    obtain rfl | before := List.prefix_concat_iff.1 before
    · exact ⟨_, .vanish portrays⟩
    · exact ih before

/-- Two characters that are shown are the same. -/
theorem Portrays.unique (portrays : Portrays calls shown) {first second : String}
    (firstShown : (Speaker.character first).Shown calls)
    (secondShown : (Speaker.character second).Shown calls) : first = second := by
  have same := (portrays.shown_iff first).1 firstShown
  rw [(portrays.shown_iff second).1 secondShown] at same
  exact (Speaker.character.inj (Option.some.inj same)).symm

/-- Nobody else is shown when a character is brought up. -/
theorem Portrays.alone {name other : String}
    (portrays : Portrays (calls ++ [.showSpeaker (.character name)]) shown)
    (up : (Speaker.character other).Shown calls) : other = name :=
  portrays.unique (Speaker.shown_concat_show.2 (.inr up)) (Speaker.shown_concat_show.2 (.inl rfl))

/-- Calls that show one character at a time, and after which nobody talks but one speaker. -/
structure Stages (calls : List Call) (character voice : Option Speaker) : Prop where
  /-- The character that is shown. -/
  portraits : Portrays calls character
  /-- The speaker that talks. -/
  voices : ∀ speaker : Speaker, speaker.Talks calls ↔ voice = some speaker

namespace Stages

variable {character voice : Option Speaker} {more : List Call}

/-- An empty stage. -/
theorem blank : Stages [] none none := ⟨.blank, fun _ => ⟨nofun, nofun⟩⟩

/-- A character appears where nobody else is shown. -/
theorem appear (stages : Stages calls character voice) {name : String}
    (alone : ∀ other ∈ character, other = .character name) :
    Stages (calls ++ [.showSpeaker (.character name)]) (some (.character name)) voice :=
  ⟨.appear stages.portraits alone, fun speaker =>
    (Speaker.talks_concat rfl).trans (stages.voices speaker)⟩

/-- The character that is shown vanishes. -/
theorem vanish {speaker : Speaker} (stages : Stages calls (some speaker) voice) :
    Stages (calls ++ [.hideSpeaker speaker]) none voice :=
  ⟨.vanish stages.portraits, fun other => (Speaker.talks_concat rfl).trans (stages.voices other)⟩

/-- A call that neither shows nor hides a character, nor lets a speaker start to talk or stop. -/
theorem other (stages : Stages calls character voice) {call : Call}
    (mute : ∀ name, call.portrays? (.character name) = none)
    (silent : ∀ speaker, call.voices? speaker = none) :
    Stages (calls ++ [call]) character voice :=
  ⟨.other stages.portraits mute, fun speaker =>
    (Speaker.talks_concat (silent speaker)).trans (stages.voices speaker)⟩

/-- A speaker starts to talk while nobody else does. -/
theorem start (stages : Stages calls character none) (speaker : Speaker) :
    Stages (calls ++ [.setTalking speaker true]) character (some speaker) := by
  refine ⟨.other stages.portraits fun _ => rfl, fun other => ?_⟩
  rw [Speaker.talks_concat_setTalking, stages.voices, Option.some_inj]
  split
  · next same => exact ⟨fun _ => same, fun _ => rfl⟩
  · next differs => exact ⟨nofun, fun same => absurd same differs⟩

/-- The speaker that talks stops, or one that does not talk is told to. -/
theorem stop (stages : Stages calls character voice) {speaker : Speaker}
    (alone : ∀ other ∈ voice, other = speaker) :
    Stages (calls ++ [.setTalking speaker false]) character none := by
  refine ⟨.other stages.portraits fun _ => rfl, fun other => ?_⟩
  rw [Speaker.talks_concat_setTalking, stages.voices]
  split
  · exact ⟨nofun, nofun⟩
  · next differs => exact ⟨fun same => absurd (alone other same).symm differs, nofun⟩

/-- Calls that change no portrait leave the stage as it is. -/
theorem scenery (stages : Stages calls character voice) (scenery : more.filter isPortrait = []) :
    Stages (calls ++ more) character voice := by
  induction more generalizing calls with
  | nil => rwa [List.append_nil]
  | cons call rest ih =>
    obtain ⟨first, others⟩ := List.forall_mem_cons.1 (List.filter_eq_nil_iff.1 scenery)
    rw [List.append_cons]
    refine ih (stages.other (fun name => ?_) fun speaker => ?_) (List.filter_eq_nil_iff.2 others)
    · cases call with
      | showSpeaker _ => exact absurd rfl first
      | hideSpeaker _ => exact absurd rfl first
      | _ => rfl
    · cases call with
      | setTalking _ _ => exact absurd rfl first
      | _ => rfl

/-- The host is told of events. -/
theorem told (stages : Stages calls character voice) (events : List String) :
    Stages (calls ++ events.map emit) character voice := by
  refine stages.scenery ?_
  induction events with
  | nil => rfl
  | cons _ rest ih => exact ih

/-- A speaker is brought up and starts to talk. -/
theorem present (stages : Stages calls character none) (speaker : Speaker) :
    Stages (calls ++ (Dialog.present character speaker).2) (Dialog.present character speaker).1
      speaker.voice? := by
  unfold Dialog.present
  cases speaker with
  | narrator => rwa [List.append_nil]
  | player =>
    have shown : Stages (calls ++ [.showSpeaker .player]) character none :=
      stages.other (fun _ => rfl) fun _ => rfl
    rw [List.append_cons]
    exact shown.start .player
  | character name =>
    -- Whoever else is shown leaves before.
    obtain ⟨up, alone, left⟩ : ∃ up, (∀ other ∈ up, other = Speaker.character name) ∧
        Stages (calls ++ if character = some (.character name) then []
          else (character.map hideSpeaker).toList) up none := by
      split
      · next same =>
        rw [List.append_nil]
        exact ⟨character, fun other found => Option.some.inj (found.symm.trans same), stages⟩
      · cases character with
        | none =>
          refine ⟨none, nofun, ?_⟩
          rw [Option.map_none, Option.toList_none, List.append_nil]
          exact stages
        | some other => exact ⟨none, nofun, stages.vanish⟩
    have shown := (left.appear alone).start (.character name)
    dsimp only
    rw [← List.append_assoc, List.append_cons]
    exact shown

/-- A line is brought up, and its speaker starts to talk. -/
theorem openLine (stages : Stages calls character none) (line : Line) :
    Stages (calls ++ (Dialog.openLine character line).2) (Dialog.openLine character line).1
      line.speaker.voice? := by
  unfold Dialog.openLine
  dsimp only
  rw [← List.append_assoc, ← List.append_assoc]
  refine Stages.scenery (Stages.present (stages.scenery ?_) line.speaker) rfl
  cases line.illustration <;> rfl

/-- A line goes on being revealed. Its speaker talks until it is whole. -/
theorem revealLine {speaker : Speaker} (stages : Stages calls character speaker.voice?)
    (manner : Manner) (remaining : List Char) (budget : Duration) :
    Stages (calls ++ (Dialog.revealLine manner remaining budget speaker).2) character
      (Dialog.revealLine manner remaining budget speaker).1.voice? := by
  have letters (characters : List Char) :
      Stages (calls ++ manner.letters characters) character speaker.voice? := by
    refine stages.scenery ?_
    induction characters with
    | nil => rfl
    | cons _ rest ih => exact ih
  unfold Dialog.revealLine
  dsimp only
  split
  · rw [← List.append_assoc]
    have shown := letters (Dialog.reveal manner.pace.interval remaining budget).1
    split
    · next narrator =>
      unfold Speaker.voice? at shown
      rw [if_pos narrator] at shown
      rwa [List.append_nil]
    · next speaks =>
      unfold Speaker.voice? at shown
      rw [if_neg speaks] at shown
      exact shown.stop fun other found => (Option.some.inj found).symm
  · exact letters _

/-- A walk stages what it arrives at. -/
theorem arrive {manner : Manner} {dialog : DialogGraph} {stop : Stop}
    (stages : Stages calls character none) (arrives : stop.Arrives manner dialog character) :
    Stages (calls ++ stop.calls) stop.character (stop.wait.bind Wait.voice?) := by
  cases arrives with
  | line events known =>
    dsimp only
    rw [← List.append_assoc, ← List.append_assoc]
    exact Stages.revealLine ((stages.told events).openLine _) manner _ _
  | choice events known stocked =>
    dsimp only
    rw [← List.append_assoc]
    exact (stages.told events).scenery rfl
  | finish events known =>
    dsimp only
    split <;> exact stages.told events
  | stall events reason => exact stages.told events

end Stages

end Call

end Narrative
