import Narrative.Branch
import Narrative.Proofs.Log

/-!
# What a branch resolves to

A branch resolves to one of its options. It resolves at all if one of them has no condition. The
only thing that it reports is that a condition is on an undeclared cell.
-/

namespace Narrative.Branch

variable {α : Type} [Candidate α]

/-- An option without a condition is open. -/
theorem satisfied_none (flags : Flags) : (satisfied flags none).value = true := rfl

/-- The index found is that of the best option before, or of one of the options. -/
theorem resolveFrom_lt (flags : Flags) (options : List α) {index found : Nat}
    {best : Option (Nat × Int32)} (earlier : ∀ leader, best = some leader → leader.1 < index)
    (resolved : (resolveFrom flags index best options).value = some found) :
    found < index + options.length := by
  induction options generalizing index best with
  | nil =>
    obtain ⟨leader, known, same⟩ := Option.map_eq_some_iff.1 resolved
    have before := earlier leader known
    omega
  | cons option rest ih =>
    unfold resolveFrom at resolved
    rw [Logged.value_bind] at resolved
    dsimp only at resolved
    have length : (option :: rest).length = rest.length + 1 := List.length_cons
    split at resolved
    · have within := ih (fun leader same => by
        obtain rfl := Option.some.inj same
        exact Nat.lt_succ_self index) resolved
      omega
    · have within := ih (fun leader same => Nat.lt_succ_of_lt (earlier leader same)) resolved
      omega

/-- An index is found if there was a best option before, or if one of the options has no
condition. -/
theorem resolveFrom_isSome (flags : Flags) (options : List α) {index : Nat}
    {best : Option (Nat × Int32)}
    (certain : best.isSome = true ∨ ∃ option ∈ options, Candidate.condition option = none) :
    (resolveFrom flags index best options).value.isSome = true := by
  induction options generalizing index best with
  | nil =>
    obtain leader | ⟨_, member, _⟩ := certain
    · unfold resolveFrom
      rw [Logged.value_pure, Option.isSome_map]
      exact leader
    · cases member
  | cons option rest ih =>
    unfold resolveFrom
    rw [Logged.value_bind]
    dsimp only
    split
    · exact ih (.inl rfl)
    · next skipped =>
      apply ih
      obtain leader | ⟨fallback, member, unconditional⟩ := certain
      · exact .inl leader
      · obtain rfl | later := List.mem_cons.1 member
        · -- The option is open, so that it was skipped only for a better one.
          left
          rw [unconditional, satisfied_none, Bool.true_and] at skipped
          cases best with
          | none => exact absurd rfl skipped
          | some leader => rfl
        · exact .inr ⟨fallback, later, unconditional⟩

/-- A branch resolves to one of its options. -/
theorem resolve_lt {flags : Flags} {options : List α} {found : Nat}
    (resolved : (resolve flags options).value = some found) : found < options.length := by
  have within := resolveFrom_lt flags options (fun _ absent => by cases absent) resolved
  omega

/-- A branch with an option that has no condition resolves under all flags. -/
theorem resolve_of_unconditional (flags : Flags) {options : List α}
    (fallback : ∃ option ∈ options, Candidate.condition option = none) :
    ∃ found, (resolve flags options).value = some found :=
  Option.isSome_iff_exists.1 (resolveFrom_isSome flags options (.inr fallback))

/-- A condition reports about itself only. -/
theorem sifted_satisfied {test : Entry → Bool}
    (apart : ∀ message, test ⟨.warn, .cells, message⟩ = false) (flags : Flags)
    (condition : Option Condition) : (satisfied flags condition).sifted test = [] := by
  unfold satisfied
  split
  · rfl
  · split
    · rfl
    · simp [apart]

/-- A branch reports about conditions only. -/
theorem sifted_resolve {test : Entry → Bool}
    (apart : ∀ message, test ⟨.warn, .cells, message⟩ = false) (flags : Flags)
    (options : List α) : (resolve flags options).sifted test = [] := by
  have quiet : ∀ (index : Nat) (best : Option (Nat × Int32)),
      (resolveFrom flags index best options).sifted test = [] := by
    induction options with
    | nil => exact fun _ _ => rfl
    | cons option rest ih =>
      intro index best
      unfold resolveFrom
      rw [Logged.sifted_bind, sifted_satisfied apart, List.nil_append]
      dsimp only
      split
      · exact ih _ _
      · exact ih _ _
  exact quiet 0 none

end Narrative.Branch
