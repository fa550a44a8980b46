import Narrative.Proofs.Repertoire.Asking

/-!
# Characters are independent

Characters may share an offer graph, and each still walks in it alone. Whatever others are asked in
between, a character is answered as if nobody else was asked.
-/

namespace Narrative

/-- Whether a question is put to a character. -/
def Question.isTo (character : String) (question : Question) : Bool :=
  question.character == character

namespace Repertoire

/-- The answers to some questions in order, each with what is reported on the way to it. -/
def answers (bundle : Bundle) (repertoire : Repertoire) :
    List Question → List (Question × Logged (Option String))
  | [] => []
  | question :: rest =>
    (question, repertoire.answer bundle question) ::
      (repertoire.ask bundle question).answers bundle rest

/-- Two repertoires that are the same for a character. -/
structure SameFor (character : String) (first second : Repertoire) : Prop where
  /-- The character has the same places and the same dialog. -/
  thread : first.thread character = second.thread character
  /-- The same is reported. -/
  tracing : first.tracing = second.tracing

variable {repertoire other : Repertoire} {character : String}

/-- A question to the character is answered in the same way, and keeps the two the same. -/
theorem SameFor.own (bundle : Bundle) {question : Question}
    (same : SameFor question.character repertoire other) :
    repertoire.answer bundle question = other.answer bundle question ∧
      SameFor question.character (repertoire.ask bundle question) (other.ask bundle question) := by
  have alike := select_alike bundle question same.thread same.tracing
  refine ⟨alike.answer, alike.thread, ?_⟩
  rw [tracing_ask, tracing_ask, same.tracing]

/-- A question to somebody else keeps the two the same, though only one of them is asked. -/
theorem SameFor.foreign (bundle : Bundle) {question : Question}
    (same : SameFor character repertoire other) (apart : character ≠ question.character) :
    SameFor character (repertoire.ask bundle question) other where
  thread := (thread_ask_of_ne repertoire bundle apart).trans same.thread
  tracing := (tracing_ask repertoire bundle question).trans same.tracing

/-- A character is answered as if nobody else was asked. -/
theorem SameFor.alone (bundle : Bundle) (same : SameFor character repertoire other)
    (questions : List Question) :
    let own := questions.filter (·.isTo character)
    (repertoire.answers bundle questions).filter (·.1.isTo character) = other.answers bundle own ∧
      SameFor character (repertoire.askAll bundle questions) (other.askAll bundle own) := by
  -- Both move on at a question to the character, and only the first one at any other.
  induction questions generalizing repertoire other with
  | nil => exact ⟨rfl, same⟩
  | cons question rest ih =>
    by_cases own : question.character = character
    · subst own
      have counts : question.isTo question.character = true := beq_self_eq_true _
      obtain ⟨answer, after⟩ := same.own bundle
      obtain ⟨later, final⟩ := ih after
      simp only [answers, List.filter_cons, counts, if_true, later, answer, true_and]
      exact final
    · have past : question.isTo character = false := beq_eq_false_iff_ne.2 own
      obtain ⟨later, final⟩ := ih (same.foreign bundle (Ne.symm own))
      simp only [answers, List.filter_cons, past, Bool.false_eq_true, if_false, later, true_and]
      exact final

/-- Two runs of questions, with the same questions to a character in the same order, answer the
character in the same way, question by question, and leave it with the same places and the same
dialog to offer. -/
theorem characters_do_not_interfere (repertoire : Repertoire) (bundle : Bundle)
    (character : String) {first second : List Question}
    (same : first.filter (·.isTo character) = second.filter (·.isTo character)) :
    (repertoire.answers bundle first).filter (·.1.isTo character) =
        (repertoire.answers bundle second).filter (·.1.isTo character) ∧
      (repertoire.askAll bundle first).active? character =
        (repertoire.askAll bundle second).active? character ∧
      ∀ graph, (repertoire.askAll bundle first).place? character graph =
        (repertoire.askAll bundle second).place? character graph := by
  have begun : SameFor character repertoire repertoire := ⟨rfl, rfl⟩
  obtain ⟨firstAnswers, firstFinal⟩ := begun.alone bundle first
  obtain ⟨secondAnswers, secondFinal⟩ := begun.alone bundle second
  rw [same] at firstAnswers firstFinal
  have thread := firstFinal.thread.trans secondFinal.thread.symm
  exact ⟨firstAnswers.trans secondAnswers.symm, congrArg Thread.active thread,
    fun graph => congrArg (·.places.get? graph) thread⟩

end Repertoire

/-- Two characters share an offer graph, whose second dialog waits for a flag. -/
def Bundle.village : Bundle :=
  { Bundle.empty with
    offers := .ofList
      [("villagers", ⟨"villagers",
        [⟨.start, [⟨Port.exit, some 1⟩]⟩, ⟨.content "hello" none, [⟨Port.exit, some 2⟩]⟩,
          ⟨.content "rumour" (some ⟨.flag "met", .equal⟩), []⟩]⟩)]
    characters := .ofList [("guide", .single "villagers"), ("smith", .single "villagers")]
    flags := Flags.empty.declareFlag "met" false }

/-- The smith tells the rumour before the guide says anything, or after the guide has told it; the
guide says hello, and then tells the rumour, in both cases. -/
theorem Repertoire.characters_do_not_interfere_village :
    let begun := Repertoire.empty .standard
    let guide := fun met => Question.mk "guide" (Flags.empty.declareFlag "met" met)
    let smith := fun met => Question.mk "smith" (Flags.empty.declareFlag "met" met)
    let first := [smith true, smith true, guide false, guide true]
    let second := [guide false, smith false, guide true, smith true]
    first.filter (·.isTo "guide") = second.filter (·.isTo "guide") ∧
      ((begun.answers .village first).filter (·.1.isTo "guide")).map (·.2.value) =
        [some "hello", some "rumour"] ∧
      (begun.answers .village first).filter (·.1.isTo "guide") =
        (begun.answers .village second).filter (·.1.isTo "guide") ∧
      (begun.askAll .village first).active? "guide" =
        (begun.askAll .village second).active? "guide" := by
  intro begun guide smith first second
  have same : first.filter (·.isTo "guide") = second.filter (·.isTo "guide") := by decide
  obtain ⟨answers, active, -⟩ :=
    Repertoire.characters_do_not_interfere begun .village "guide" same
  exact ⟨same, by decide, answers, active⟩

end Narrative
