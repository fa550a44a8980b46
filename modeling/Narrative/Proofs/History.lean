import Mathlib.Data.List.Infix

/-!
# Histories

A history lists what happened, oldest first. Some things can only happen after others; that each of
them does is read off what stands before it.
-/

namespace Narrative

variable {α : Type} {grounds : List α → α → Prop} {past events : List α}

/-- What happened after some past, each event of which has its reason in all that comes before
it. -/
def Justified (reason : List α → α → Prop) : List α → List α → Prop
  | _, [] => True
  | past, event :: rest => reason past event ∧ Justified reason (past ++ [event]) rest

/-- Events in two parts have their reasons if both parts have them. -/
theorem justified_append {first second : List α} :
    Justified grounds past (first ++ second) ↔
      Justified grounds past first ∧ Justified grounds (past ++ first) second := by
  induction first generalizing past with
  | nil => simp [Justified]
  | cons event rest ih => simp [Justified, ih, and_assoc]

/-- Each single event has its reason in all that comes before it. -/
theorem Justified.reason {earlier later : List α} {event : α}
    (justified : Justified grounds past (earlier ++ event :: later)) :
    grounds (past ++ earlier) event :=
  (justified_append.1 justified).2.1

/-- Events that need no reason have it. -/
theorem justified_of_free (free : ∀ event ∈ events, ∀ past, grounds past event) :
    Justified grounds past events := by
  induction events generalizing past with
  | nil => trivial
  | cons event rest ih =>
    obtain ⟨first, later⟩ := List.forall_mem_cons.1 free
    exact ⟨first past, ih later⟩

/-- The end of a history that does not reach back to an event ends what comes after the event. -/
theorem suffix_of_notMem {first between start ending : List α} {event : α}
    (same : first ++ event :: between = start ++ ending) (absent : event ∉ ending) :
    ending <:+ between := by
  obtain ⟨middle, -, split⟩ | ⟨middle, -, split⟩ := List.append_eq_append_iff.1 same
  · cases middle with
    | nil =>
      have last : ending = event :: between := split.symm
      exact absurd (last ▸ List.mem_cons_self) absent
    | cons _ rest => exact ⟨rest, (List.cons.inj split).2.symm⟩
  · exact absurd (split ▸ List.mem_append_right middle List.mem_cons_self) absent

end Narrative
