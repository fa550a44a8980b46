import Narrative.Branch
import Narrative.Graph
import Narrative.Proofs.Flags

/-!
# Names that nothing was declared under

A condition on a cell that is not declared does not hold, a change of such a cell changes nothing,
and a character whose offer graph does not exist offers nothing. Each of these is reported, and the
report is the only trace that it leaves. A log without such reports therefore tells that every name
that was looked up was declared.
-/

namespace Narrative

/-- An entry that reports a name that nothing was declared under. -/
inductive Entry.Unresolved : Entry → Prop where
  /-- A condition reads a cell. -/
  | condition (cell : CellRef) :
    Unresolved ⟨.warn, .cells, s!"condition references unknown state '{cell.name}'"⟩
  /-- A flag is to be raised. -/
  | activate (flag : String) :
    Unresolved ⟨.warn, .cells, s!"activate: undeclared scenario flag '{flag}'"⟩
  /-- A number is to be set. -/
  | set (cell : String) : Unresolved ⟨.warn, .cells, s!"set: undeclared unit state '{cell}'"⟩
  /-- A number is to be added to. -/
  | add (cell : String) : Unresolved ⟨.warn, .cells, s!"add: undeclared unit state '{cell}'"⟩
  /-- A character is to use an offer graph. -/
  | offers (character graph : String) :
    Unresolved ⟨.error, .engine,
      s!"character '{character}' references unknown dialog-state graph '{graph}'"⟩

/-- Such an entry is a warning about the cells, or an error of the game as a whole. -/
theorem Entry.Unresolved.filed {entry : Entry} (unresolved : entry.Unresolved) :
    (entry.level, entry.category) = (.warn, .cells) ∨
      (entry.level, entry.category) = (.error, .engine) := by
  cases unresolved with
  | offers _ _ => exact .inr rfl
  | _ => exact .inl rfl

/-- A text begins as its first part does. -/
theorem begins {text : String} {first : Char} (known : text.toList.head? = some first)
    (rest : String) : (text ++ rest).toList.head? = some first := by
  rw [String.toList_append, List.head?_append, known]
  rfl

/-- How the wording of such an entry begins. -/
theorem Entry.Unresolved.initial {entry : Entry} (unresolved : entry.Unresolved) :
    ∃ first ∈ ['c', 'a', 's'], entry.message.toList.head? = some first := by
  have condition : (toString "condition references unknown state '").toList.head? = some 'c' := rfl
  have activate : (toString "activate: undeclared scenario flag '").toList.head? = some 'a' := rfl
  have set : (toString "set: undeclared unit state '").toList.head? = some 's' := rfl
  have add : (toString "add: undeclared unit state '").toList.head? = some 'a' := rfl
  have offers : (toString "character '").toList.head? = some 'c' := rfl
  cases unresolved with
  | condition _ => exact ⟨'c', by decide, begins (begins condition _) _⟩
  | activate _ => exact ⟨'a', by decide, begins (begins activate _) _⟩
  | set _ => exact ⟨'s', by decide, begins (begins set _) _⟩
  | add _ => exact ⟨'a', by decide, begins (begins add _) _⟩
  | offers _ _ => exact ⟨'c', by decide, begins (begins (begins (begins offers _) _) _) _⟩

namespace Logged

variable {α β : Type}

/-- A value on the way to which no name was reported that nothing was declared under. -/
structure Resolved (logged : Logged α) : Prop where
  /-- No entry is such a report. -/
  absent : ∀ entry ∈ logged.entries, ¬ entry.Unresolved

namespace Resolved

/-- Nothing was reported. -/
theorem of_silent {logged : Logged α} (silent : logged.entries = []) : logged.Resolved := by
  refine ⟨fun entry member => ?_⟩
  rw [silent] at member
  cases member

/-- Nothing is reported on the way to a value that is there. -/
theorem pure (value : α) : (Pure.pure value : Logged α).Resolved := of_silent rfl

/-- One after the other. -/
theorem bind {first : Logged α} {next : α → Logged β} (before : first.Resolved)
    (after : (next first.value).Resolved) : (first >>= next).Resolved := by
  refine ⟨fun entry member => ?_⟩
  obtain early | late := List.mem_append.1 member
  · exact before.absent entry early
  · exact after.absent entry late

/-- What is made of a value does not matter. -/
theorem map {first : Logged α} (before : first.Resolved) (change : α → β) :
    (change <$> first).Resolved := before.bind (pure _)

/-- An entry that is filed elsewhere. -/
theorem note {level : Level} {category : Category}
    (elsewhere : (level, category) ∉ [(.warn, .cells), (.error, .engine)]) (message : String) :
    (Logged.note level category message).Resolved := by
  refine ⟨fun entry member unresolved => ?_⟩
  obtain rfl := List.mem_singleton.1 member
  obtain cells | engine := unresolved.filed
  · exact elsewhere (cells ▸ List.mem_cons_self)
  · exact elsewhere (engine ▸ List.mem_cons_of_mem _ List.mem_cons_self)

/-- An entry that begins otherwise. -/
theorem worded {message : String} {first : Char} (begun : message.toList.head? = some first)
    (otherwise : first ∉ ['c', 'a', 's']) (level : Level) (category : Category) :
    (Logged.note level category message).Resolved := by
  refine ⟨fun entry member unresolved => ?_⟩
  obtain rfl := List.mem_singleton.1 member
  obtain ⟨other, among, known⟩ := unresolved.initial
  obtain rfl : first = other := Option.some.inj (begun.symm.trans known)
  exact otherwise among

/-- An optional entry, which is neither a warning nor an error. -/
theorem optional {level : Level} (mild : level ∉ [.warn, .error]) (tracing : Tracing)
    (category : Category) (message : String) : (tracing.note category level message).Resolved := by
  unfold Tracing.note
  split
  · refine note (fun filed => mild ?_) message
    obtain cells | engine := List.mem_cons.1 filed
    · obtain rfl : level = .warn := congrArg Prod.fst cells
      exact List.mem_cons_self
    · obtain rfl : level = .error := congrArg Prod.fst (List.mem_singleton.1 engine)
      exact List.mem_cons_of_mem _ List.mem_cons_self
  · exact pure ()

end Resolved

/-- A value of some kind, on the way to which no such name was reported. -/
structure ResolvedTo (holds : α → Prop) (logged : Logged α) : Prop where
  /-- No such name was reported. -/
  resolved : logged.Resolved
  /-- The value is of the kind. -/
  value : holds logged.value

namespace ResolvedTo

variable {holds : α → Prop} {meets : β → Prop}

/-- Nothing is reported on the way to a value that is there. -/
theorem pure {value : α} (known : holds value) : (Pure.pure value : Logged α).ResolvedTo holds :=
  ⟨.pure value, known⟩

/-- One after the other. -/
theorem bind {first : Logged α} {next : α → Logged β} (before : first.ResolvedTo holds)
    (after : holds first.value → (next first.value).ResolvedTo meets) :
    (first >>= next).ResolvedTo meets :=
  ⟨before.resolved.bind (after before.value).resolved, (after before.value).value⟩

/-- After a value that does not matter. -/
theorem after {first : Logged α} {next : α → Logged β} (before : first.Resolved)
    (rest : (next first.value).ResolvedTo meets) : (first >>= next).ResolvedTo meets :=
  ⟨before.bind rest.resolved, rest.value⟩

end ResolvedTo

end Logged

/-- That a graph has no start is another matter. -/
theorem GraphError.missingStart_resolved (graph : String) :
    (Logged.note .error .engine (missingStart graph).message).Resolved := by
  have begun : (toString "graph '").toList.head? = some 'g' := rfl
  exact .worded (begins (begins begun (toString graph)) _) (by decide) _ _

namespace Branch

/-- A condition is evaluated without a report exactly if its cell is declared. -/
theorem satisfied_resolved_iff (flags : Flags) (condition : Condition) :
    (satisfied flags (some condition)).Resolved ↔ flags.declares condition.cell = true := by
  obtain ⟨cell, comparison⟩ := condition
  have known : flags.declares cell = (flags.evaluate ⟨cell, comparison⟩).isSome := by
    unfold Flags.evaluate
    cases cell <;> exact Option.isSome_map.symm
  unfold satisfied
  dsimp only
  rw [known]
  cases flags.evaluate ⟨cell, comparison⟩ with
  | some result => exact iff_of_true (.pure result) rfl
  | none =>
    refine iff_of_false (fun resolved => ?_) Bool.false_ne_true
    exact resolved.absent _ List.mem_cons_self (.condition cell)

end Branch

namespace Flags

/-- A cell is changed without a report exactly if it is declared. The answer tells so too. -/
theorem Write.apply_resolved_iff (write : Write) (flags : Flags) :
    ((write.apply flags).Resolved ↔ flags.declares write.cell = true) ∧
      (write.apply flags).value.1 = flags.declares write.cell := by
  have reports {change : Logged (Bool × Flags)} {entry : Entry} (known : entry ∈ change.entries)
      (unresolved : entry.Unresolved) : ¬ change.Resolved := fun resolved =>
    resolved.absent entry known unresolved
  cases write with
  | activate flag =>
    dsimp only [apply, cell, declares]
    unfold Flags.activate SortedMap.contains flag?
    cases flags.flags.get? flag with
    | some cell => exact ⟨iff_of_true (.pure _) rfl, rfl⟩
    | none =>
      exact ⟨iff_of_false (reports List.mem_cons_self (.activate flag)) Bool.false_ne_true, rfl⟩
  | set name value =>
    dsimp only [apply, cell, declares]
    unfold setValue SortedMap.contains unit?
    cases flags.units.get? name with
    | some cell => exact ⟨iff_of_true (.pure _) rfl, rfl⟩
    | none => exact ⟨iff_of_false (reports List.mem_cons_self (.set name)) Bool.false_ne_true, rfl⟩
  | add name delta =>
    dsimp only [apply, cell, declares]
    unfold addValue SortedMap.contains unit?
    cases flags.units.get? name with
    | some cell => exact ⟨iff_of_true (.pure _) rfl, rfl⟩
    | none => exact ⟨iff_of_false (reports List.mem_cons_self (.add name)) Bool.false_ne_true, rfl⟩

end Flags

end Narrative
