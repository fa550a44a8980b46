import Mathlib.Data.Finset.Card
import Mathlib.Tactic.WLOG
import Narrative.Proofs.Flags.Agreement
import Narrative.Proofs.Graph.Cycle

/-!
# Walks that come back

A walk goes from node to node and changes the flags on its way. One that has passed more nodes than
there are has come back to a node. This does not mean that it goes on for ever: the flags may differ
between the two visits, and a branch may then lead out of the round. If the flags agree on the cells
that the way depends on, however, the second round goes like the first one, and so does every round
after it.

The invariant is that a walk stands where it will come back to a station that is alike. It is
preserved by every step, since stations that are alike lead to stations that are alike.
-/

namespace Narrative

/-- The cells that the nodes of a graph name. -/
def Graph.cells {κ : Type} (graph : Graph κ) (named : κ → List CellRef) : List CellRef :=
  graph.nodes.flatMap fun node => named node.kind

/-- What a node names is named in the graph. -/
theorem Graph.mem_cells {κ : Type} {graph : Graph κ} {named : κ → List CellRef} {id : NodeId}
    {kind : κ} {cell : CellRef} (known : graph.kind? id = some kind) (member : cell ∈ named kind) :
    cell ∈ graph.cells named := by
  rcases Option.map_eq_some_iff.1 known with ⟨node, found, rfl⟩
  exact List.mem_flatMap.2 ⟨node, List.mem_of_getElem? found, member⟩

/-- Where a walk stands: a node, and what the story remembers there. -/
structure Station (μ : Type) where
  /-- The node. -/
  node : NodeId
  /-- What the story remembers. -/
  memory : μ

/-- Two stations on one node, at which the flags agree on some cells. -/
structure Station.Alike {μ : Type} (flags : μ → Flags) (cells : List CellRef)
    (here other : Station μ) : Prop where
  /-- The node is the same. -/
  node : here.node = other.node
  /-- The flags agree on the cells. -/
  flags : Flags.AgreeOn cells (flags here.memory) (flags other.memory)

/-- A walk through a graph that nothing but its rest ends. -/
structure Walking (μ : Type) where
  /-- The number of nodes. -/
  size : Nat
  /-- The flags among what the story remembers. -/
  flags : μ → Flags
  /-- The cells that the way depends on. -/
  reads : List CellRef
  /-- The cells that are changed on the way. -/
  writes : List CellRef
  /-- Where the walk goes on to; nowhere if it rests. -/
  onward : Station μ → Option (Station μ)
  /-- Whether the walk rests. -/
  Rests : Station μ → Prop
  /-- The walk goes on unless it rests. -/
  rests_iff : ∀ here, Rests here ↔ onward here = none
  /-- The walk passes nodes of the graph only. -/
  inside : ∀ here next, onward here = some next → here.node < size
  /-- Stations that are alike are left for stations that are alike. -/
  follows : ∀ here other next, here.Alike flags reads other → onward here = some next →
    ∃ beyond, onward other = some beyond ∧ next.Alike flags reads beyond
  /-- Other cells are left alone. -/
  spares : ∀ here next cell, onward here = some next → cell ∉ writes →
    (flags here.memory).SameAt (flags next.memory) cell

namespace Walking

variable {μ : Type} (walking : Walking μ)

/-- Where a walk stands after some number of steps; nowhere if it rests before. -/
def after : Nat → Station μ → Option (Station μ)
  | 0, here => some here
  | count + 1, here => (walking.onward here).bind (after count)

/-- Whether a walk never comes to rest. -/
def Endless (start : Station μ) : Prop :=
  ∀ count there, walking.after count start = some there → ¬walking.Rests there

/-- Whether a walk comes to a station and later on back to its node. -/
def ComesBack (start here back : Station μ) : Prop :=
  ∃ first second, first < second ∧ walking.after first start = some here ∧
    walking.after second start = some back ∧ here.node = back.node

variable {walking} {start here back there : Station μ} {count : Nat}

/-- Steps in a row. -/
theorem after_add (first second : Nat) (start : Station μ) :
    walking.after (first + second) start =
      (walking.after first start).bind (walking.after second) := by
  induction first generalizing start with
  | zero =>
    rw [Nat.zero_add]
    rfl
  | succ first ih =>
    rw [Nat.succ_add]
    show (walking.onward start).bind (walking.after (first + second)) =
      ((walking.onward start).bind (walking.after first)).bind (walking.after second)
    cases walking.onward start with
    | none => rfl
    | some next => exact ih next

/-- The last step. -/
theorem after_succ (count : Nat) (start : Station μ) :
    walking.after (count + 1) start = (walking.after count start).bind walking.onward := by
  rw [after_add]
  congr 1
  funext here
  unfold after
  cases walking.onward here <;> rfl

/-- A walk that takes some number of steps takes every smaller number of them. -/
theorem exists_after_of_le {fewer : Nat} (le : fewer ≤ count)
    (taken : ∃ there, walking.after count start = some there) :
    ∃ there, walking.after fewer start = some there := by
  rcases taken with ⟨there, stands⟩
  have split : fewer + (count - fewer) = count := by omega
  rw [← split, after_add] at stands
  rcases Option.bind_eq_some_iff.1 stands with ⟨between, before, -⟩
  exact ⟨between, before⟩

/-- A walk never comes to rest exactly if it takes any number of steps. -/
theorem endless_iff :
    walking.Endless start ↔ ∀ count, ∃ there, walking.after count start = some there := by
  constructor
  · intro endless count
    induction count with
    | zero => exact ⟨start, rfl⟩
    | succ count ih =>
      rcases ih with ⟨there, stands⟩
      have goesOn : walking.onward there ≠ none := fun rests =>
        endless count there stands ((walking.rests_iff there).2 rests)
      rw [after_succ, stands]
      exact Option.ne_none_iff_exists'.1 goesOn
  · intro taken count there stands rests
    rcases taken (count + 1) with ⟨next, beyond⟩
    rw [after_succ, stands, Option.bind_some, (walking.rests_iff there).1 rests] at beyond
    cases beyond

/-- A walk that gets to where it never comes to rest never comes to rest. -/
theorem endless_of_after (stands : walking.after count start = some there)
    (endless : walking.Endless there) : walking.Endless start := by
  rw [endless_iff] at endless ⊢
  intro more
  have enough : more ≤ count + more := by omega
  apply exists_after_of_le enough
  rw [after_add, stands]
  exact endless more

/-- A walk never comes to rest if it goes on from where an invariant holds to where it holds. -/
theorem endless_of_invariant (Holds : Station μ → Prop)
    (goesOn : ∀ here, Holds here → ∃ next, walking.onward here = some next ∧ Holds next)
    (holds : Holds start) : walking.Endless start := by
  rw [endless_iff]
  intro count
  induction count generalizing start with
  | zero => exact ⟨start, rfl⟩
  | succ count ih =>
    rcases goesOn start holds with ⟨next, leads, still⟩
    unfold after
    rw [leads]
    exact ih still

/-- A walk with a bound, which is given up once the bound is used up, is given up exactly if it
takes as many steps without the bound. -/
theorem givenUp_iff_after (GivenUp : Nat → Station μ → Prop) (zero : ∀ here, GivenUp 0 here)
    (rests : ∀ bound here, walking.Rests here → ¬GivenUp (bound + 1) here)
    (goesOn : ∀ bound here next, walking.onward here = some next →
      (GivenUp (bound + 1) here ↔ GivenUp bound next)) (bound : Nat) (start : Station μ) :
    GivenUp bound start ↔ ∃ there, walking.after bound start = some there := by
  induction bound generalizing start with
  | zero => exact iff_of_true (zero start) ⟨start, rfl⟩
  | succ bound ih =>
    cases leads : walking.onward start with
    | none =>
      have here : walking.Rests start := (walking.rests_iff start).2 leads
      simpa [after, leads] using rests bound start here
    | some next =>
      rw [goesOn bound start next leads, ih, after, leads]
      rfl

/-- A walk that passes more nodes than there are comes back to one. -/
theorem comesBack_of_long
    (long : ∃ there, walking.after (walking.size + 1) start = some there) :
    ∃ here back, walking.ComesBack start here back := by
  let place (count : Nat) : NodeId := (walking.after count start).elim 0 Station.node
  have within : ∀ count ∈ Finset.range (walking.size + 1),
      place count ∈ Finset.range walking.size := by
    intro count member
    have few : count + 1 ≤ walking.size + 1 := by
      have bound := Finset.mem_range.1 member
      omega
    rcases exists_after_of_le few long with ⟨next, stands⟩
    rw [after_succ] at stands
    rcases Option.bind_eq_some_iff.1 stands with ⟨here, before, leads⟩
    have there : place count = here.node := by simp [place, before]
    rw [there, Finset.mem_range]
    exact walking.inside here next leads
  have fewer : (Finset.range walking.size).card < (Finset.range (walking.size + 1)).card := by simp
  rcases Finset.exists_ne_map_eq_of_card_lt_of_maps_to fewer within with
    ⟨first, one, second, other, apart, same⟩
  wlog sooner : first < second generalizing first second
  · exact this second other first one apart.symm same.symm (by omega)
  rw [Finset.mem_range] at one other
  rcases exists_after_of_le (Nat.le_of_lt one) long with ⟨here, was⟩
  rcases exists_after_of_le (Nat.le_of_lt other) long with ⟨back, stands⟩
  have node : here.node = back.node := by simpa [place, was, stands] using same
  exact ⟨here, back, first, second, sooner, was, stands, node⟩

/-- A walk that comes back to a node, with flags that agree on the cells that its way depends on,
never comes to rest. -/
theorem endless_of_comesBack (round : walking.ComesBack start here back)
    (agree : Flags.AgreeOn walking.reads (walking.flags here.memory)
      (walking.flags back.memory)) : walking.Endless start := by
  rcases round with ⟨first, second, sooner, was, stands, node⟩
  have split : first + (second - first) = second := by omega
  obtain ⟨more, positive⟩ : ∃ more, second - first = more + 1 := ⟨second - first - 1, by omega⟩
  rw [← split, after_add, was, Option.bind_some, positive] at stands
  apply endless_of_after was
  apply endless_of_invariant fun here => ∃ back, walking.after (more + 1) here = some back ∧
    here.Alike walking.flags walking.reads back
  · rintro here ⟨back, comes, alike⟩
    have leads : ∃ next, walking.onward here = some next ∧ walking.after more next = some back :=
      Option.bind_eq_some_iff.1 comes
    rcases leads with ⟨next, leads, rest⟩
    rcases walking.follows here back next alike leads with ⟨beyond, onward, still⟩
    refine ⟨next, leads, beyond, ?_, still⟩
    rw [after_succ, rest]
    exact onward
  · exact ⟨back, stands, node, agree⟩

/-- A walk leaves cells alone that it does not write. -/
theorem sameAt_after {cell : CellRef} (spared : cell ∉ walking.writes)
    (stands : walking.after count start = some there) :
    (walking.flags start.memory).SameAt (walking.flags there.memory) cell := by
  induction count generalizing start with
  | zero =>
    obtain rfl := Option.some.inj stands
    exact .refl _ cell
  | succ count ih =>
    rcases Option.bind_eq_some_iff.1 stands with ⟨next, leads, rest⟩
    exact (walking.spares start next cell leads spared).trans (ih rest)

/-- A walk that passes more nodes than there are, and writes no cell that its way depends on, never
comes to rest. -/
theorem endless_of_apart (apart : ∀ cell ∈ walking.reads, cell ∉ walking.writes)
    (long : ∃ there, walking.after (walking.size + 1) start = some there) :
    walking.Endless start := by
  rcases comesBack_of_long long with ⟨here, back, first, second, sooner, was, stands, node⟩
  apply endless_of_comesBack ⟨first, second, sooner, was, stands, node⟩
  intro cell read
  have spared := apart cell read
  exact (sameAt_after spared was).symm.trans (sameAt_after spared stands)

/-- What it means that a walk is reported to go round a cycle. -/
structure Reported (walking : Walking μ) (start : Station μ) (reported : Prop) : Prop where
  /-- The walk passes more nodes than there are. -/
  long : reported ↔ ∃ there, walking.after (walking.size + 1) start = some there
  /-- A walk that never comes to rest is reported. -/
  endless : walking.Endless start → reported
  /-- A walk that is reported came back to a node. -/
  back : reported → ∃ here back, walking.ComesBack start here back
  /-- If it came back with flags that agree on the cells that its way depends on, it never comes to
  rest. -/
  alike : ∀ here back, walking.ComesBack start here back →
    Flags.AgreeOn walking.reads (walking.flags here.memory) (walking.flags back.memory) →
    walking.Endless start
  /-- If it writes no such cell, it is reported exactly if it never comes to rest. -/
  apart : (∀ cell ∈ walking.reads, cell ∉ walking.writes) → (reported ↔ walking.Endless start)

/-- All of this follows if those walks are reported that pass more nodes than there are. -/
theorem reported_of_long {reported : Prop}
    (long : reported ↔ ∃ there, walking.after (walking.size + 1) start = some there) :
    walking.Reported start reported where
  long := long
  endless endless := long.2 (endless_iff.1 endless _)
  back told := comesBack_of_long (long.1 told)
  alike _ _ := endless_of_comesBack
  apart apart :=
    ⟨fun told => endless_of_apart apart (long.1 told), fun endless =>
      long.2 (endless_iff.1 endless _)⟩

end Walking

end Narrative
