import FileSieve.Calendar
import FileSieve.Instant

/-!
# The text of an instant

An instant is written as date and time of day in UTC, such as `2024-03-01T00:00:00Z`.  The fraction
of the second has three, six or nine digits and is left out when it is zero; a leap second is
written as second 60; years outside 0 to 9999 carry their sign.
-/

namespace FileSieve.Instant

/-- A number in decimal, with zeros in front up to the given width. -/
def padded (width n : Nat) : String :=
  let digits := toString n
  String.ofList (List.replicate (width - digits.length) '0') ++ digits

/-- The text of a year. -/
def yearText (year : Int) : String :=
  if year < 0 then "-" ++ padded 4 year.natAbs
  else if 9999 < year then "+" ++ padded 4 year.natAbs
  else padded 4 year.natAbs

/-- The text of a fraction of a second, given in nanoseconds. -/
def fractionText (nanoseconds : Nat) : String :=
  if nanoseconds == 0 then ""
  else if nanoseconds % 1000000 == 0 then "." ++ padded 3 (nanoseconds / 1000000)
  else if nanoseconds % 1000 == 0 then "." ++ padded 6 (nanoseconds / 1000)
  else "." ++ padded 9 nanoseconds

/-- The date and time of day of an instant in UTC. -/
def text (t : Instant) : String :=
  let (year, month, day) := Date.partsOfDayNumber (t.seconds / 86400)
  let second := (t.seconds % 86400).toNat
  let billion := 1000000000
  let leap := if billion ≤ t.nanoseconds then 1 else 0
  yearText year ++ "-" ++ padded 2 month ++ "-" ++ padded 2 day ++ "T"
    ++ padded 2 (second / 3600) ++ ":" ++ padded 2 (second / 60 % 60) ++ ":"
    ++ padded 2 (second % 60 + leap) ++ fractionText (t.nanoseconds - leap * billion) ++ "Z"

end FileSieve.Instant
