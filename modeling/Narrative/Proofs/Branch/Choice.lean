import Mathlib.Tactic.ByContra
import Narrative.Proofs.Branch

/-!
# Which option a branch resolves to

One pass with a running maximum decides a branch. What it finds is said here without the pass: an
open option that no open option surpasses and that no earlier open option equals. The invariant of
the pass is that its leader is that option among the options it has seen, so that one option more
either becomes the leader or changes nothing.

Options that are closed take no part. Taking some out, or putting others that are closed in their
place, only moves the options behind them.
-/

namespace Narrative

namespace Condition

/-- A condition holds if its cell is declared and stands in the relation asked for. -/
inductive Holds (flags : Flags) : Condition → Prop
  /-- A condition on a number. -/
  | unit {name : String} {comparison : Comparison} {cell : UnitCell}
      (declared : flags.unit? name = some cell) (met : cell.meets comparison = true) :
      Holds flags ⟨.unit name, comparison⟩
  /-- A condition on a truth value. -/
  | flag {name : String} {comparison : Comparison} {cell : FlagCell}
      (declared : flags.flag? name = some cell) (met : cell.meets comparison = true) :
      Holds flags ⟨.flag name, comparison⟩

/-- Conditions are evaluated as they hold. -/
theorem holds_iff {flags : Flags} {condition : Condition} :
    condition.Holds flags ↔ flags.evaluate condition = some true := by
  constructor
  · rintro (⟨declared, met⟩ | ⟨declared, met⟩) <;> simp [Flags.evaluate, declared, met]
  · intro evaluated
    rcases condition with ⟨name | name, comparison⟩
    · have found : ∃ cell, flags.unit? name = some cell ∧ cell.meets comparison = true := by
        simpa [Flags.evaluate] using evaluated
      rcases found with ⟨cell, declared, met⟩
      exact .unit declared met
    · have found : ∃ cell, flags.flag? name = some cell ∧ cell.meets comparison = true := by
        simpa [Flags.evaluate] using evaluated
      rcases found with ⟨cell, declared, met⟩
      exact .flag declared met

/-- No condition holds if no cell is declared. -/
theorem not_holds_empty (condition : Condition) : ¬condition.Holds ∅ := by
  rintro (⟨declared, -⟩ | ⟨declared, -⟩) <;> cases declared

end Condition

namespace Branch

variable {α : Type} [Candidate α] {flags : Flags}

/-- An option is open if it has no condition, or one that holds. -/
def IsOpen (flags : Flags) (option : α) : Prop :=
  ∀ condition, Candidate.condition option = some condition → condition.Holds flags

/-- The pass asks of each option whether it is open. -/
theorem satisfied_iff {option : α} :
    (satisfied flags (Candidate.condition option)).value = true ↔ IsOpen flags option := by
  unfold satisfied IsOpen
  cases Candidate.condition option with
  | none => simp
  | some condition =>
    have asked : (∀ other, some condition = some other → other.Holds flags) ↔
        flags.evaluate condition = some true := by
      simp [Condition.holds_iff]
    rw [asked]
    cases evaluated : flags.evaluate condition with
    | none => simp [evaluated]
    | some result => simp [evaluated]

/-- The option at an index is the one to take. -/
structure Wins (flags : Flags) (options : List α) (index : Nat) (option : α) : Prop where
  /-- The option is there. -/
  here : options[index]? = some option
  /-- It is open. -/
  isOpen : IsOpen flags option
  /-- No open option surpasses it. -/
  highest : ∀ other ∈ options, IsOpen flags other →
    Candidate.priority other ≤ Candidate.priority option
  /-- No earlier open option equals it. -/
  first : ∀ earlier other, earlier < index → options[earlier]? = some other →
    IsOpen flags other → Candidate.priority other ≠ Candidate.priority option

/-- At most one option is the one to take. -/
theorem Wins.index_eq {options : List α} {left right : Nat} {here there : α}
    (one : Wins flags options left here) (other : Wins flags options right there) :
    left = right := by
  have same : Candidate.priority here = Candidate.priority there :=
    Int32.le_antisymm
      (other.highest here (List.mem_of_getElem? one.here) one.isOpen)
      (one.highest there (List.mem_of_getElem? other.here) other.isOpen)
  rcases Nat.lt_trichotomy left right with before | equal | after
  · exact absurd same (other.first left here before one.here one.isOpen)
  · exact equal
  · exact absurd same.symm (one.first right there after other.here other.isOpen)

/-- What the pass knows of the options it has seen: none is open, or its leader is the one to take
of them. -/
def IsBest (flags : Flags) (seen : List α) : Option (Nat × Int32) → Prop
  | none => ∀ option ∈ seen, ¬IsOpen flags option
  | some leader => ∃ option, Wins flags seen leader.1 option ∧
      Candidate.priority option = leader.2

/-- An open option that surpasses the leader becomes the leader. -/
theorem IsBest.replace {seen : List α} {best : Option (Nat × Int32)} {option : α}
    (known : IsBest flags seen best) (isOpen : IsOpen flags option)
    (surpasses : ∀ leader, best = some leader → leader.2 < Candidate.priority option) :
    IsBest flags (seen ++ [option]) (some (seen.length, Candidate.priority option)) := by
  have above : ∀ other ∈ seen, IsOpen flags other →
      Candidate.priority other < Candidate.priority option := by
    intro other member otherOpen
    cases best with
    | none => exact absurd otherOpen (known other member)
    | some leader =>
      rcases known with ⟨led, wins, priority⟩
      have below := wins.highest other member otherOpen
      rw [priority] at below
      exact Int32.lt_of_le_of_lt below (surpasses leader rfl)
  refine ⟨option, ⟨?_, isOpen, ?_, ?_⟩, rfl⟩
  · simp
  · intro other member otherOpen
    rcases List.mem_append.1 member with old | new
    · exact Int32.le_of_lt (above other old otherOpen)
    · rw [List.mem_singleton.1 new]
      exact Int32.le_refl _
  · intro earlier other before found otherOpen
    rw [List.getElem?_append_left before] at found
    exact Int32.ne_of_lt (above other (List.mem_of_getElem? found) otherOpen)

/-- An option that is closed or does not surpass the leader changes nothing. -/
theorem IsBest.keep {seen : List α} {best : Option (Nat × Int32)} {option : α}
    (known : IsBest flags seen best)
    (passed : IsOpen flags option → ∃ leader, best = some leader ∧
      Candidate.priority option ≤ leader.2) :
    IsBest flags (seen ++ [option]) best := by
  cases best with
  | none =>
    intro other member otherOpen
    rcases List.mem_append.1 member with old | new
    · exact known other old otherOpen
    · rw [List.mem_singleton.1 new] at otherOpen
      rcases passed otherOpen with ⟨leader, absent, -⟩
      cases absent
  | some leader =>
    rcases known with ⟨led, wins, priority⟩
    have within : leader.1 < seen.length := (List.getElem?_eq_some_iff.1 wins.here).1
    refine ⟨led, ⟨?_, wins.isOpen, ?_, ?_⟩, priority⟩
    · rw [List.getElem?_append_left within]
      exact wins.here
    · intro other member otherOpen
      rcases List.mem_append.1 member with old | new
      · exact wins.highest other old otherOpen
      · rw [List.mem_singleton.1 new] at otherOpen ⊢
        rcases passed otherOpen with ⟨same, known, below⟩
        obtain rfl := Option.some.inj known
        rw [priority]
        exact below
    · intro earlier other before found otherOpen
      rw [List.getElem?_append_left (Nat.lt_trans before within)] at found
      exact wins.first earlier other before found otherOpen

/-- At the end of the pass the invariant holds of all options. -/
theorem resolveFrom_isBest (rest : List α) {seen : List α} {best : Option (Nat × Int32)}
    (known : IsBest flags seen best) :
    ∃ last, IsBest flags (seen ++ rest) last ∧
      (resolveFrom flags seen.length best rest).value = last.map Prod.fst := by
  induction rest generalizing seen best with
  | nil =>
    rw [List.append_nil]
    exact ⟨best, known, rfl⟩
  | cons option rest ih =>
    have split : seen ++ option :: rest = (seen ++ [option]) ++ rest := by simp
    have next : (seen ++ [option]).length = seen.length + 1 := by simp
    unfold resolveFrom
    rw [Logged.value_bind, split, ← next]
    dsimp only
    split
    · next taken =>
      rw [Bool.and_eq_true, satisfied_iff, Option.all_eq_true] at taken
      apply ih
      apply known.replace taken.1
      intro leader led
      exact of_decide_eq_true (taken.2 leader led)
    · next passed =>
      apply ih
      apply known.keep
      intro isOpen
      rw [satisfied_iff.2 isOpen, Bool.true_and] at passed
      cases best with
      | none => exact absurd rfl passed
      | some leader =>
        have below : ¬leader.2 < Candidate.priority option := by simpa using passed
        exact ⟨leader, rfl, Int32.not_lt.1 below⟩

/-- What the whole pass finds. -/
theorem resolve_isBest (flags : Flags) (options : List α) :
    ∃ last, IsBest flags options last ∧ (resolve flags options).value = last.map Prod.fst := by
  have start : IsBest flags ([] : List α) none := fun _ absent => by cases absent
  exact resolveFrom_isBest options start

/-- A branch resolves to the option that is the one to take. -/
theorem resolve_eq_some_iff {options : List α} {index : Nat} :
    (resolve flags options).value = some index ↔ ∃ option, Wins flags options index option := by
  rcases resolve_isBest flags options with ⟨last, known, found⟩
  rw [found]
  cases last with
  | none =>
    constructor
    · intro absent
      cases absent
    · rintro ⟨option, wins⟩
      exact absurd wins.isOpen (known option (List.mem_of_getElem? wins.here))
  | some leader =>
    rcases known with ⟨led, leads, -⟩
    constructor
    · intro same
      obtain rfl := Option.some.inj same
      exact ⟨led, leads⟩
    · rintro ⟨option, wins⟩
      exact congrArg some (leads.index_eq wins)

/-- A branch resolves to nothing exactly if no option is open. -/
theorem resolve_eq_none_iff {options : List α} :
    (resolve flags options).value = none ↔ ∀ option ∈ options, ¬IsOpen flags option := by
  rcases resolve_isBest flags options with ⟨last, known, found⟩
  rw [found]
  cases last with
  | none => exact iff_of_true rfl known
  | some leader =>
    rcases known with ⟨led, leads, -⟩
    apply iff_of_false
    · intro absent
      cases absent
    · intro closed
      exact closed led (List.mem_of_getElem? leads.here) leads.isOpen

/-- Where an option is found once `count` others stand in the place of `length` options that
follow the first `start`. -/
def moved (start length count index : Nat) : Nat :=
  if index < start then index else index - length + count

/-- An open option is found again where it has moved to. -/
theorem getElem?_moved {before gone after : List α} (put : List α) {index : Nat} {option : α}
    (closed : ∀ option ∈ gone, ¬IsOpen flags option)
    (here : (before ++ gone ++ after)[index]? = some option) (isOpen : IsOpen flags option) :
    (before ++ put ++ after)[moved before.length gone.length put.length index]? = some option ∧
      (index < before.length ∨ before.length + gone.length ≤ index) := by
  unfold moved
  by_cases early : index < before.length
  · rw [if_pos early, List.append_assoc, List.getElem?_append_left early]
    rw [List.append_assoc, List.getElem?_append_left early] at here
    exact ⟨here, .inl early⟩
  · have late : before.length + gone.length ≤ index := by
      by_contra within
      rw [List.getElem?_append_left (by rw [List.length_append]; omega),
        List.getElem?_append_right (by omega)] at here
      exact closed option (List.mem_of_getElem? here) isOpen
    rw [List.getElem?_append_right (by rw [List.length_append]; omega),
      List.length_append] at here
    rw [if_neg early, List.getElem?_append_right (by rw [List.length_append]; omega),
      List.length_append]
    refine ⟨?_, .inr late⟩
    rw [← here]
    congr 1
    omega

/-- The option to take stays the one to take if closed options are replaced by closed ones. -/
theorem Wins.replace {before gone put after : List α} {index : Nat} {option : α}
    (goneClosed : ∀ option ∈ gone, ¬IsOpen flags option)
    (putClosed : ∀ option ∈ put, ¬IsOpen flags option)
    (wins : Wins flags (before ++ gone ++ after) index option) :
    Wins flags (before ++ put ++ after)
      (moved before.length gone.length put.length index) option := by
  rcases getElem?_moved put goneClosed wins.here wins.isOpen with ⟨here, outside⟩
  refine ⟨here, wins.isOpen, ?_, ?_⟩
  · intro other member otherOpen
    apply wins.highest other _ otherOpen
    simp only [List.mem_append] at member ⊢
    rcases member with (first | closed) | last
    · exact .inl (.inl first)
    · exact absurd otherOpen (putClosed other closed)
    · exact .inr last
  · -- An earlier option moves back to a place that is earlier, too.
    intro earlier other sooner found otherOpen
    rcases getElem?_moved gone putClosed found otherOpen with ⟨back, apart⟩
    apply wins.first _ other _ back otherOpen
    unfold moved at sooner ⊢
    split at sooner <;> split <;> omega

/-- Replacing closed options by closed ones only moves the options behind them. -/
theorem resolve_replace {before gone put after : List α}
    (goneClosed : ∀ option ∈ gone, ¬IsOpen flags option)
    (putClosed : ∀ option ∈ put, ¬IsOpen flags option) :
    (resolve flags (before ++ put ++ after)).value =
      (resolve flags (before ++ gone ++ after)).value.map
        (moved before.length gone.length put.length) := by
  cases found : (resolve flags (before ++ gone ++ after)).value with
  | none =>
    rw [resolve_eq_none_iff] at found
    rw [Option.map_none, resolve_eq_none_iff]
    intro option member
    simp only [List.mem_append] at found member
    rcases member with (first | closed) | last
    · exact found option (.inl (.inl first))
    · exact putClosed option closed
    · exact found option (.inr last)
  | some index =>
    rcases resolve_eq_some_iff.1 found with ⟨option, wins⟩
    rw [Option.map_some, resolve_eq_some_iff]
    exact ⟨option, wins.replace goneClosed putClosed⟩

/-- The open options, in their order. -/
def opened (flags : Flags) (options : List α) : List α :=
  options.filter fun option => (satisfied flags (Candidate.condition option)).value

/-- An option is among the open ones exactly if it is one of the options and open. -/
theorem mem_opened {options : List α} {option : α} :
    option ∈ opened flags options ↔ option ∈ options ∧ IsOpen flags option := by
  unfold opened
  rw [List.mem_filter, satisfied_iff]

/-- How many open options come before an index. -/
def rank (flags : Flags) (options : List α) (index : Nat) : Nat :=
  (opened flags (options.take index)).length

/-- The option to take is the one to take among the open options, too. -/
theorem Wins.amongOpened {options : List α} {index : Nat} {option : α}
    (wins : Wins flags options index option) :
    Wins flags (opened flags options) (rank flags options index) option := by
  have split : opened flags options = opened flags (options.take index) ++
      option :: opened flags (options.drop (index + 1)) := by
    have parts : options = options.take index ++ option :: options.drop (index + 1) := by
      rcases List.getElem?_eq_some_iff.1 wins.here with ⟨within, rfl⟩
      rw [List.getElem_cons_drop, List.take_append_drop]
    conv_lhs => rw [parts]
    unfold opened
    rw [List.filter_append, List.filter_cons_of_pos]
    exact satisfied_iff.2 wins.isOpen
  refine ⟨?_, wins.isOpen, ?_, ?_⟩
  · unfold rank
    simp [split]
  · intro other member
    exact wins.highest other (mem_opened.1 member).1
  · intro earlier other before found otherOpen
    rw [split, List.getElem?_append_left before] at found
    have taken : other ∈ options.take index := (mem_opened.1 (List.mem_of_getElem? found)).1
    rcases List.mem_take_iff_getElem.1 taken with ⟨place, within, rfl⟩
    exact wins.first place _ (by omega) (List.getElem?_eq_getElem (by omega)) otherOpen

/-- A branch resolves among its open options: the rank of what is found is what they alone resolve
to. -/
theorem resolve_opened (flags : Flags) (options : List α) :
    (resolve flags (opened flags options)).value =
      (resolve flags options).value.map (rank flags options) := by
  cases found : (resolve flags options).value with
  | none =>
    rw [resolve_eq_none_iff] at found
    rw [Option.map_none, resolve_eq_none_iff]
    intro option member
    exact found option (mem_opened.1 member).1
  | some index =>
    rcases resolve_eq_some_iff.1 found with ⟨option, wins⟩
    rw [Option.map_some, resolve_eq_some_iff]
    exact ⟨option, wins.amongOpened⟩

/-- A branch resolves under all flags. -/
def AlwaysResolves (options : List α) : Prop :=
  ∀ flags, ∃ index, (resolve flags options).value = some index

/-- A branch resolves under all flags exactly if one of its options has no condition: flags that
declare no cell leave only such options open. -/
theorem alwaysResolves_iff {options : List α} :
    AlwaysResolves options ↔ ∃ option ∈ options, Candidate.condition option = none := by
  constructor
  · intro always
    rcases always ∅ with ⟨index, resolved⟩
    rcases resolve_eq_some_iff.1 resolved with ⟨option, wins⟩
    refine ⟨option, List.mem_of_getElem? wins.here, ?_⟩
    cases asked : Candidate.condition option with
    | none => rfl
    | some condition => exact absurd (wins.isOpen condition asked) condition.not_holds_empty
  · intro fallback flags
    exact resolve_of_unconditional flags fallback

end Branch

end Narrative
