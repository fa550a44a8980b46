import Narrative.Log

/-!
# Entries of one sort

Sequences of operations compose as values do. An operation that reports something among other things
is told by the entries of that sort alone. They are taken out of the log by a test, which goes
through sequences of operations.
-/

namespace Narrative

/-- Whether an entry is about the engine. -/
def Entry.ofEngine (entry : Entry) : Bool := entry.category = .engine

/-- Whether an entry helps to find a fault, and no more. -/
def Entry.isDebug (entry : Entry) : Bool := entry.level = .debug

namespace Logged

variable {α β γ : Type} {test : Entry → Bool}

/-- A value may be changed after a sequence or at the end of it. -/
theorem map_bind (change : β → γ) (first : Logged α) (next : α → Logged β) :
    change <$> (first >>= next) = first >>= fun value => change <$> next value :=
  congrArg (Logged.mk (change (next first.value).value)) (List.append_assoc ..)

/-- The entries that pass a test. -/
def sifted (test : Entry → Bool) (logged : Logged α) : List Entry := logged.entries.filter test

@[simp]
theorem sifted_pure (value : α) : (pure value : Logged α).sifted test = [] := rfl

@[simp]
theorem sifted_bind (first : Logged α) (next : α → Logged β) :
    (first >>= next).sifted test = first.sifted test ++ (next first.value).sifted test :=
  List.filter_append ..

@[simp]
theorem sifted_map (change : α → β) (first : Logged α) :
    (change <$> first).sifted test = first.sifted test :=
  (sifted_bind first (pure ∘ change)).trans (List.append_nil _)

/-- An entry is kept if it passes. -/
@[simp]
theorem sifted_note (level : Level) (category : Category) (message : String) :
    (note level category message).sifted test =
      if test ⟨level, category, message⟩ then [⟨level, category, message⟩] else [] := by
  unfold sifted note
  rw [List.filter_cons, List.filter_nil]

/-- An optional entry is kept if it is written and passes. -/
@[simp]
theorem sifted_optional (tracing : Tracing) (level : Level) (category : Category)
    (message : String) :
    (tracing.note category level message).sifted test =
      if tracing.allows category level && test ⟨level, category, message⟩ then
        [⟨level, category, message⟩]
      else [] := by
  unfold Tracing.note
  cases tracing.allows category level with
  | true => exact sifted_note level category message
  | false => rfl

end Logged

end Narrative
