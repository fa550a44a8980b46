import Narrative.Host.Recorder

/-!
# What a recorder keeps

A recorder keeps every call, and the music that the calls leave playing. From its calls can be read
off what the player saw of each line: a transcript hears one call after another, and closes a line
when the text is taken away for the next one.
-/

namespace Narrative

/-- Calls in a row. -/
theorem Host.performAll_append {η : Type} [Host η] (host : η) (first second : List Call) :
    Host.performAll host (first ++ second) = Host.performAll (Host.performAll host first) second :=
  List.foldl_append

namespace Recorder

/-- A recorder keeps every call. -/
theorem calls_performAll (recorder : Recorder) (calls : List Call) :
    (Host.performAll recorder calls).calls = recorder.calls ++ calls := by
  induction calls generalizing recorder with
  | nil => exact (List.append_nil _).symm
  | cons call rest ih =>
    refine (ih (Host.perform recorder call)).trans ?_
    change (recorder.calls ++ [call]) ++ rest = recorder.calls ++ call :: rest
    rw [List.append_assoc]
    rfl

/-- The music that plays after calls. -/
theorem music_performAll (recorder : Recorder) (calls : List Call) :
    (Host.performAll recorder calls).music = calls.foldl musicAfter recorder.music := by
  induction calls generalizing recorder with
  | nil => rfl
  | cons call rest ih => exact ih (Host.perform recorder call)

end Recorder

/-- The lines that were shown: those that are closed, and the last one as far as it is shown. -/
structure Transcript where
  /-- The closed lines. -/
  closed : List String
  /-- What is shown of the last line; none before the first one. -/
  shown : Option (List Char)

namespace Transcript

/-- No line. -/
def blank : Transcript := ⟨[], none⟩

/-- All lines, the last one with some characters that are still to come. -/
def completed (transcript : Transcript) (hidden : List Char) : List String :=
  transcript.closed ++ (transcript.shown.map fun shown => String.ofList (shown ++ hidden)).toList

/-- All lines as far as they are shown. -/
def lines (transcript : Transcript) : List String := transcript.completed []

/-- The transcript after one more call. -/
def hear (transcript : Transcript) : Call → Transcript
  | .clearText => ⟨transcript.lines, some []⟩
  | .showText character => { transcript with
      shown := some (transcript.shown.getD [] ++ [character]) }
  | _ => transcript

/-- The transcript after more calls. -/
def hearAll (transcript : Transcript) (calls : List Call) : Transcript :=
  calls.foldl hear transcript

/-- Calls in a row. -/
theorem hearAll_append (transcript : Transcript) (first second : List Call) :
    transcript.hearAll (first ++ second) = (transcript.hearAll first).hearAll second :=
  List.foldl_append

/-- The lines of a transcript are the closed ones and the one that is shown. -/
theorem lines_eq (transcript : Transcript) :
    transcript.lines = transcript.closed ++ (transcript.shown.map String.ofList).toList := by
  obtain ⟨closed, _ | shown⟩ := transcript
  · rfl
  · change closed ++ [String.ofList (shown ++ [])] = _
    rw [List.append_nil]
    rfl

/-- What a transcript hears is what is read off the calls. -/
theorem lines_hearAll (transcript : Transcript) (calls : List Call) :
    (transcript.hearAll calls).lines =
      transcript.closed ++ Recorder.linesFrom transcript.shown calls := by
  induction calls generalizing transcript with
  | nil => exact transcript.lines_eq
  | cons call rest ih =>
    refine (ih (transcript.hear call)).trans ?_
    cases call with
    | clearText =>
      change transcript.lines ++ _ = transcript.closed ++ (_ ++ _)
      rw [lines_eq, List.append_assoc]
      rfl
    | _ => rfl

/-- A transcript to which characters of the last line are still to come, if it then shows some
texts. -/
structure Spells (transcript : Transcript) (hidden : List Char) (texts : List String) : Prop where
  /-- The texts are what it shows, with the characters to come. -/
  whole : transcript.completed hidden = texts
  /-- Characters come to a line only. -/
  opened : hidden ≠ [] → transcript.shown ≠ none

/-- Nothing is to come. -/
theorem spells_lines (transcript : Transcript) : transcript.Spells [] transcript.lines :=
  ⟨rfl, fun some => absurd rfl some⟩

/-- One more character that was to come is shown. -/
theorem Spells.hear {transcript : Transcript} {character : Char} {hidden : List Char}
    {texts : List String} (spells : transcript.Spells (character :: hidden) texts) :
    (transcript.hear (.showText character)).Spells hidden texts := by
  obtain ⟨whole, opened⟩ := spells
  obtain ⟨closed, _ | shown⟩ := transcript
  · exact absurd rfl (opened (List.cons_ne_nil _ _))
  · refine ⟨?_, fun _ => Option.some_ne_none _⟩
    change closed ++ [String.ofList (shown ++ [character] ++ hidden)] = texts
    rw [List.append_assoc]
    exact whole

/-- Of a line to which characters are still to come, a part is shown. -/
theorem Spells.split {transcript : Transcript} {hidden : List Char} {texts : List String}
    (spells : transcript.Spells hidden texts) (some : hidden ≠ []) :
    ∃ shown, transcript.lines = transcript.closed ++ [String.ofList shown] ∧
      texts = transcript.closed ++ [String.ofList (shown ++ hidden)] := by
  obtain ⟨whole, opened⟩ := spells
  obtain ⟨shown, same⟩ := Option.ne_none_iff_exists'.1 (opened some)
  refine ⟨shown, ?_, ?_⟩
  · rw [lines_eq, same]
    rfl
  · rw [← whole, completed, same]
    rfl

end Transcript

/-- The lines of a recorder are those that a transcript hears. -/
theorem Recorder.lines_eq_transcript (recorder : Recorder) :
    recorder.lines = (Transcript.blank.hearAll recorder.calls).lines :=
  (Transcript.blank.lines_hearAll recorder.calls).symm

end Narrative
