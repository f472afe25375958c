import FileSieve.Calendar

/-!
# Instants

A point in time, counted in seconds from the first of January 1970 (UTC), with nanoseconds.  A
leap second has no count of its own: it is the second before it with a thousand million
nanoseconds or more, so that instants are ordered by seconds first and nanoseconds second.

Seconds can be counted further than the calendar goes; `Instant.isDated` says where it ends.
-/

namespace FileSieve

/-- A point in time. -/
structure Instant where
  /-- Whole seconds since the start of 1970. -/
  seconds : Int
  /-- Nanoseconds after that; a thousand million or more only inside a leap second. -/
  nanoseconds : Nat
  deriving DecidableEq, Repr, Inhabited

/-- Whether `a` is strictly later than `b`. -/
def Instant.isAfter (a b : Instant) : Bool :=
  b.seconds < a.seconds || (a.seconds == b.seconds && b.nanoseconds < a.nanoseconds)

theorem Instant.isAfter_iff (a b : Instant) :
    a.isAfter b = true ↔
      b.seconds < a.seconds ∨ (a.seconds = b.seconds ∧ b.nanoseconds < a.nanoseconds) := by
  simp [isAfter]

/-- Whether an instant lies on a day of the calendar. -/
def Instant.isDated (t : Instant) : Bool :=
  Date.first.dayNumber * 86400 ≤ t.seconds && t.seconds < (Date.last.dayNumber + 1) * 86400

end FileSieve
