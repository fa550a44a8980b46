import Mathlib.Order.Nat
import Narrative.Proofs.Dialog.Route

/-!
# Letters and time

A line starts with the time for one letter, and every letter takes the time of one interval. Time
that does not suffice for the next letter is kept. So it does not matter how the time is cut into
pieces: the letters that have appeared are as many as the intervals that have passed, and one more.
-/

namespace Narrative

/-- The letters of a line that have appeared after some nanoseconds: one for each interval that has
passed and one more, up to the whole line, and all of them at once if letters take no time. -/
def TextPace.due (pace : TextPace) (length elapsed : Nat) : Nat :=
  if pace.interval.nanoseconds = 0 then length
  else min length (1 + elapsed / pace.interval.nanoseconds)

/-- No more letters are due than the line has. -/
theorem TextPace.due_le (pace : TextPace) (length elapsed : Nat) :
    pace.due length elapsed ≤ length := by
  unfold due
  split
  · exact Nat.le_refl length
  · exact Nat.min_le_left ..

/-- Whether a call shows a letter. -/
def Call.isLetter : Call → Bool
  | showText _ => true
  | _ => false

namespace Duration

/-- No duration is longer than the longest. -/
theorem nanoseconds_le (duration : Duration) : duration.nanoseconds ≤ longest :=
  Nat.le_sub_one_of_lt duration.bounded

/-- A difference is exact. -/
theorem nanoseconds_sub (first second : Duration) :
    (first.sub second).nanoseconds = first.nanoseconds - second.nanoseconds :=
  Nat.min_eq_left ((Nat.sub_le ..).trans first.nanoseconds_le)

/-- A duration is that of its nanoseconds. -/
theorem ofNanoseconds_nanoseconds (duration : Duration) :
    ofNanoseconds duration.nanoseconds = duration :=
  ext (Nat.min_eq_left duration.nanoseconds_le)

/-- More nanoseconds are added to a count of nanoseconds. -/
theorem add_ofNanoseconds (count : Nat) (duration : Duration) :
    (ofNanoseconds count).add duration = ofNanoseconds (count + duration.nanoseconds) := by
  refine ext ?_
  change min (min count longest + duration.nanoseconds) longest =
    min (count + duration.nanoseconds) longest
  omega

/-- An interval that has passed can be taken off before or after more time is added. -/
theorem sub_add {budget interval time : Duration} (reaches : budget.reaches interval = true)
    (fits : budget.nanoseconds + time.nanoseconds ≤ longest) :
    (budget.add time).sub interval = (budget.sub interval).add time := by
  have passed : interval.nanoseconds ≤ budget.nanoseconds := of_decide_eq_true reaches
  have left : (budget.sub interval).nanoseconds + time.nanoseconds ≤ longest := by
    rw [nanoseconds_sub]
    omega
  refine ext ?_
  rw [nanoseconds_sub, nanoseconds_add fits, nanoseconds_add left, nanoseconds_sub]
  omega

end Duration

namespace Dialog

/-- What is asked for when some characters appear: each is shown, and heard. -/
def Manner.letters (manner : Manner) (characters : List Char) : List Call :=
  characters.flatMap fun character => [.showText character, .playSound manner.sounds.speak]

/-- What is asked for when the last character of a line has appeared: a speaker other than the
narrator stops talking. -/
def hush (speaker : Speaker) : List Call :=
  if speaker = .narrator then [] else [.setTalking speaker false]

/-- The letters that are shown are the characters. -/
theorem Manner.filter_letters (manner : Manner) (characters : List Char) :
    (manner.letters characters).filter Call.isLetter = characters.map Call.showText := by
  induction characters with
  | nil => rfl
  | cons first rest ih => exact congrArg (Call.showText first :: ·) ih

/-- A speaker that stops talking shows no letter. -/
theorem filter_hush (speaker : Speaker) : (hush speaker).filter Call.isLetter = [] := by
  unfold hush
  split <;> rfl

/-- Asides show no letter. -/
theorem filter_asides {calls : List Call} (asides : calls.all Call.isAside = true) :
    calls.filter Call.isLetter = [] := by
  refine List.filter_eq_nil_iff.2 fun call found => ?_
  have aside := List.all_eq_true.1 asides call found
  cases call with
  | showText _ => cases aside
  | _ => exact Bool.false_ne_true

/-- Bringing up a line shows no letter. -/
theorem filter_openLine (character : Option Speaker) (line : Line) :
    (openLine character line).2.filter Call.isLetter = [] := by
  have portrait := filter_asides
    (Call.all_of_kind aside_of_portrait (present_portrait character line.speaker))
  unfold openLine
  dsimp only
  rw [List.filter_append, List.filter_append, portrait]
  cases line.illustration <;> rfl

/-- Effects show no letter. -/
theorem filter_applyEffects (tracing : Tracing) (memory : Memory) (effects : List Effect) :
    (applyEffects tracing memory effects).value.2.filter Call.isLetter = [] := by
  rw [calls_applyEffects, List.filter_map]
  exact List.map_eq_nil_iff.2 (List.filter_eq_nil_iff.2 fun _ _ => Bool.false_ne_true)

/-- What is revealed in two steps is revealed at once. -/
theorem reveal_add (interval : Duration) (text : List Char) {budget time : Duration}
    (fits : budget.nanoseconds + time.nanoseconds ≤ Duration.longest) :
    reveal interval text (budget.add time) =
      let first := reveal interval text budget
      let second := reveal interval first.2.1 (first.2.2.add time)
      (first.1 ++ second.1, second.2) := by
  induction text generalizing budget with
  | nil => rfl
  | cons character rest ih =>
    by_cases reaches : budget.reaches interval = true
    · have longer : (budget.add time).reaches interval = true := by
        have passed : interval.nanoseconds ≤ budget.nanoseconds := of_decide_eq_true reaches
        refine decide_eq_true ?_
        rw [Duration.nanoseconds_add fits]
        omega
      have less : (budget.sub interval).nanoseconds + time.nanoseconds ≤ Duration.longest := by
        rw [Duration.nanoseconds_sub]
        omega
      have onward := ih less
      rw [← Duration.sub_add reaches fits] at onward
      rw [reveal, if_pos longer, onward, reveal, if_pos reaches]
      rfl
    · have nothing : reveal interval (character :: rest) budget =
          ([], character :: rest, budget) := by
        rw [reveal, if_neg reaches]
      rw [nothing]
      rfl

/-- The characters that are revealed are as many as the intervals that have passed. -/
theorem reveal_take (interval : Duration) (text : List Char) (budget : Duration) :
    (reveal interval text budget).1 = text.take
      (if interval.nanoseconds = 0 then text.length
      else budget.nanoseconds / interval.nanoseconds) := by
  induction text generalizing budget with
  | nil => exact List.take_nil.symm
  | cons character rest ih =>
    by_cases reaches : budget.reaches interval = true
    · have passed : interval.nanoseconds ≤ budget.nanoseconds := of_decide_eq_true reaches
      rw [reveal, if_pos reaches]
      change character :: (reveal interval rest (budget.sub interval)).1 = _
      rw [ih, Duration.nanoseconds_sub]
      split
      · rfl
      · next takes =>
        rw [Nat.div_eq_sub_div (Nat.pos_of_ne_zero takes) passed, List.take_succ_cons]
    · have short : budget.nanoseconds < interval.nanoseconds :=
        Nat.lt_of_not_le fun passed => reaches (decide_eq_true passed)
      rw [reveal, if_neg reaches, if_neg (Nat.ne_of_gt (Nat.zero_lt_of_lt short)),
        Nat.div_eq_of_lt short, List.take_zero]

/-- A line that is whole stays whole. -/
theorem revealLine_add_of_confirm (manner : Manner) {text : List Char} {budget time : Duration}
    {speaker : Speaker} (fits : budget.nanoseconds + time.nanoseconds ≤ Duration.longest)
    (whole : (revealLine manner text budget speaker).1 = .confirm) :
    revealLine manner text (budget.add time) speaker = revealLine manner text budget speaker := by
  have added := reveal_add manner.pace.interval text fits
  unfold revealLine at whole ⊢
  rw [added]
  dsimp only at whole ⊢
  split at whole
  · next empty =>
    rw [List.isEmpty_iff.1 empty, reveal, List.append_nil]
    rfl
  · cases whole

/-- A line that is revealed in two steps is revealed at once. -/
theorem revealLine_add_of_reveal (manner : Manner) {text remaining : List Char}
    {budget left time : Duration} {speaker other : Speaker}
    (fits : budget.nanoseconds + time.nanoseconds ≤ Duration.longest)
    (unfinished : (revealLine manner text budget speaker).1 = .reveal remaining left other) :
    let onward := revealLine manner remaining (left.add time) other
    revealLine manner text (budget.add time) speaker =
      (onward.1, (revealLine manner text budget speaker).2 ++ onward.2) := by
  have added := reveal_add manner.pace.interval text fits
  unfold revealLine at unfinished ⊢
  rw [added]
  dsimp only at unfinished ⊢
  split at unfinished
  · cases unfinished
  · next more =>
    obtain ⟨rfl, rfl, rfl⟩ := Wait.reveal.inj unfinished
    rw [if_neg more, List.flatMap_append]
    split
    · rw [List.append_assoc]
    · rfl

/-- After some time a line shows the letters that are due, and it is whole once all of them are. -/
theorem revealLine_due (manner : Manner) (text : List Char) {elapsed : Nat}
    (fits : manner.pace.interval.nanoseconds + elapsed ≤ Duration.longest) (speaker : Speaker) :
    let due := manner.pace.due text.length elapsed
    let revealed := revealLine manner text
      (.ofNanoseconds (manner.pace.interval.nanoseconds + elapsed)) speaker
    revealed.2 = manner.letters (text.take due) ++
        (if due < text.length then [] else hush speaker) ∧
      (revealed.1 = .confirm ↔ ¬due < text.length) := by
  intro due revealed
  let budget : Duration := .ofNanoseconds (manner.pace.interval.nanoseconds + elapsed)
  have counted : budget.nanoseconds = manner.pace.interval.nanoseconds + elapsed :=
    Nat.min_eq_left fits
  have shown : (reveal manner.pace.interval text budget).1 = text.take due := by
    rw [reveal_take, counted]
    unfold due TextPace.due
    split
    · rfl
    · next takes =>
      rw [Nat.add_div_left _ (Nat.pos_of_ne_zero takes), Nat.add_comm 1, Nat.min_comm,
        ← List.take_eq_take_min]
  have rest : (reveal manner.pace.interval text budget).2.1 = text.drop due := by
    have whole := reveal_append manner.pace.interval text budget
    rw [shown] at whole
    exact List.append_cancel_left (whole.trans (List.take_append_drop due text).symm)
  unfold revealed revealLine
  dsimp only
  rw [shown, rest]
  have whole : (text.drop due).isEmpty = true ↔ text.length ≤ due := by
    rw [List.isEmpty_iff, List.drop_eq_nil_iff]
  by_cases more : due < text.length
  · rw [if_neg (whole.not.2 (Nat.not_le_of_lt more)), if_pos more, List.append_nil]
    exact ⟨rfl, iff_of_false nofun (not_not_intro more)⟩
  · rw [if_pos (whole.2 (Nat.le_of_not_lt more)), if_neg more]
    exact ⟨rfl, iff_of_true rfl more⟩

end Dialog

end Narrative
