/-!
# Durations

A duration is a count of nanoseconds whose whole seconds fit a word of 64 bits. Sums stop at the
longest duration and differences at none.
-/

namespace Narrative

/-- The nanoseconds of a second. -/
def secondLength : Nat := 1000000000

/-- A length of time. -/
structure Duration where
  /-- The count of nanoseconds. -/
  nanoseconds : Nat
  /-- The whole seconds fit 64 bits. -/
  bounded : nanoseconds < UInt64.size * secondLength
  deriving DecidableEq, Repr

namespace Duration

/-- The longest duration in nanoseconds. -/
def longest : Nat := UInt64.size * secondLength - 1

/-- The duration of a count of nanoseconds, or the longest if there is none. -/
def ofNanoseconds (count : Nat) : Duration :=
  ⟨min count longest, Nat.lt_of_le_of_lt (Nat.min_le_right ..) (by decide)⟩

/-- No time. -/
def zero : Duration := ofNanoseconds 0

instance : Inhabited Duration := ⟨zero⟩

/-- The duration of a count of milliseconds. -/
def ofMilliseconds (count : Nat) : Duration := ofNanoseconds (count * 1000000)

/-- The duration of a count of seconds. -/
def ofSeconds (count : Nat) : Duration := ofNanoseconds (count * secondLength)

/-- The sum of two durations, at most the longest. -/
def add (first second : Duration) : Duration :=
  ofNanoseconds (first.nanoseconds + second.nanoseconds)

/-- What is left of a duration after another, at least none. -/
def sub (first second : Duration) : Duration :=
  ofNanoseconds (first.nanoseconds - second.nanoseconds)

/-- Whether a duration is no time at all. -/
def isZero (duration : Duration) : Bool := duration.nanoseconds == 0

/-- Whether a duration is at least another. -/
def reaches (duration other : Duration) : Bool := other.nanoseconds ≤ duration.nanoseconds

/-- The whole seconds. -/
def seconds (duration : Duration) : Nat := duration.nanoseconds / secondLength

/-- The nanoseconds beyond the whole seconds. -/
def remainder (duration : Duration) : Nat := duration.nanoseconds % secondLength

/-- Durations of the same count are the same. -/
theorem ext {first second : Duration} (same : first.nanoseconds = second.nanoseconds) :
    first = second := by
  cases first
  cases second
  simpa using same

/-- A sum that is no longer than the longest duration is exact. -/
theorem nanoseconds_add {first second : Duration}
    (fits : first.nanoseconds + second.nanoseconds ≤ longest) :
    (first.add second).nanoseconds = first.nanoseconds + second.nanoseconds :=
  Nat.min_eq_left fits

end Duration

end Narrative
