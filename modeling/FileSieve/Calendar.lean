/-!
# The proleptic Gregorian calendar

A `Date` is a year, a month and a day that exist together; years before the first one are zero and
negative.  `Date.dayNumber` counts the days from the first of January 1970 and
`Date.ofDayNumber` is the way back.
-/

namespace FileSieve

namespace Calendar

/-- Whether a year has a twenty-ninth of February. -/
def isLeap (year : Int) : Bool :=
  year % 4 == 0 && (year % 100 != 0 || year % 400 == 0)

/-- The number of days of a month; no day for a month outside the year. -/
def daysInMonth (year : Int) : (month : Nat) → Nat
  | 1 => 31
  | 2 => if isLeap year then 29 else 28
  | 3 => 31
  | 4 => 30
  | 5 => 31
  | 6 => 30
  | 7 => 31
  | 8 => 31
  | 9 => 30
  | 10 => 31
  | 11 => 30
  | 12 => 31
  | _ => 0

/-- The number of days between the first day of the year 1 and the first day of `year`. -/
def daysBeforeYear (year : Int) : Int :=
  let earlier := year - 1
  365 * earlier + earlier / 4 - earlier / 100 + earlier / 400

/-- The number of days of a year before a month. -/
def daysBeforeMonth (year : Int) : (month : Nat) → Nat
  | 0 => 0
  | 1 => 0
  | month + 2 => daysBeforeMonth year (month + 1) + daysInMonth year (month + 1)

/-- The number of days between the first day of the year 1 and the first of January 1970. -/
def epoch : Int := 719162

end Calendar

/-- A day of the calendar. -/
structure Date where
  /-- The year, which may be zero or negative. -/
  year : Int
  /-- The month, from one. -/
  month : Nat
  /-- The day of the month, from one. -/
  day : Nat
  /-- The first day of a month is day one. -/
  one_le_day : 1 ≤ day
  /-- The day exists; a month outside the year has none. -/
  day_le : day ≤ Calendar.daysInMonth year month
  deriving DecidableEq, Repr

namespace Date

/-- The day with the given year, month and day of the month, if it exists. -/
def ofParts? (year : Int) (month day : Nat) : Option Date :=
  if h : 1 ≤ day ∧ day ≤ Calendar.daysInMonth year month then some ⟨year, month, day, h.1, h.2⟩
  else none

/-- The number of days since the first of January 1970. -/
def dayNumber (d : Date) : Int :=
  Calendar.daysBeforeYear d.year + Calendar.daysBeforeMonth d.year d.month + (d.day - 1)
    - Calendar.epoch

/-! ## The years of the calendar -/

/-- The first day that there is. -/
def first : Date := ⟨-262143, 1, 1, Nat.zero_lt_one, by decide⟩

/-- The last day that there is. -/
def last : Date := ⟨262142, 12, 31, by decide, by decide⟩

/-! ## From a day number to a date -/

/-- The year of the day that lies `days` days after the first day of the year 1: the mean length
of a year gives it up to one. -/
def yearOf (days : Int) : Int :=
  let estimate := days * 400 / 146097 + 1
  if Calendar.daysBeforeYear (estimate + 1) ≤ days then estimate + 1
  else if days < Calendar.daysBeforeYear estimate then estimate - 1
  else estimate

/-- The month and the day of the month, each from one, of the day that lies `days` days after the
first day of the given month. -/
def monthAndDay (year : Int) : (fuel month days : Nat) → Nat × Nat
  | 0, month, days => (month, days + 1)
  | fuel + 1, month, days =>
    if days < Calendar.daysInMonth year month then (month, days + 1)
    else monthAndDay year fuel (month + 1) (days - Calendar.daysInMonth year month)

/-- The year, the month and the day of the month of a day number. -/
def partsOfDayNumber (n : Int) : Int × Nat × Nat :=
  let days := n + Calendar.epoch
  let year := yearOf days
  (year, monthAndDay year 11 1 (days - Calendar.daysBeforeYear year).toNat)

end Date

end FileSieve
