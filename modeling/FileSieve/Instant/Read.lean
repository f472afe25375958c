import FileSieve.Calendar
import FileSieve.Instant
import FileSieve.Text.Blank
import FileSieve.Text.Decimal

/-!
# Reading instants

A time is written in one of three formats, which are tried in this order:

* the internet format `2024-03-01T12:30:00.25+02:00`, with fixed numbers of digits, a fraction of
  any length, and an offset from UTC or `Z`;
* a date and a time of day in UTC, `2024-03-01 12:30:00`;
* a date, `2024-03-01`, which stands for its first instant in UTC.

In the last two formats blanks may stand before each number, numbers may have fewer digits, and a
year with a sign may have any number of them.  Second 60 is a leap second in every minute.
-/

namespace FileSieve.Instant

/-! ## Parts of a time -/

/-- A reader of the front of a text, which gives what it has read and what is left. -/
abbrev Reader (β : Type) := List Char → Option (β × List Char)

/-- The decimal digits at the front, at most `most` of them. -/
def leadingDigits (most : Nat) (cs : List Char) : List Char :=
  (cs.take most).takeWhile Char.isDigit

/-- A number of at least `least` and at most `most` digits. -/
def number (least most : Nat) : Reader Nat := fun cs =>
  let digits := leadingDigits most cs
  if digits.length < least then none else some (Text.decimal digits, cs.drop digits.length)

/-- A given character. -/
def mark (c : Char) : Reader Unit
  | d :: rest => if c = d then some ((), rest) else none
  | [] => none

/-- The number of seconds of a time of day, and the nanoseconds of a leap second. -/
def timeOfDay? (hour minute second : Nat) : Option (Nat × Nat) :=
  if hour < 24 && minute < 60 then
    if second < 60 then some (hour * 3600 + minute * 60 + second, 0)
    else if second = 60 then some (hour * 3600 + minute * 60 + 59, 1000000000)
    else none
  else none

/-- The instant of a date and a time of day that are `offset` seconds ahead of UTC. -/
def ofLocal (date : Date) (time : Nat × Nat) (nanoseconds : Nat) (offset : Int) : Instant :=
  ⟨date.dayNumber * 86400 + time.1 - offset, time.2 + nanoseconds⟩

/-! ## The internet format -/

/-- The fraction of a second after the point, in nanoseconds; digits after the ninth are
dropped. -/
def fraction : Reader Nat
  | '.' :: rest =>
    let digits := leadingDigits 9 rest
    if digits.isEmpty then none
    else
      some (Text.decimal digits * Nat.pow 10 (9 - digits.length), rest.dropWhile Char.isDigit)
  | rest => some (0, rest)

/-- The sign of an offset: the minus of ASCII or the typographic one, or a plus. -/
def offsetSign : Reader Int
  | '+' :: rest => some (1, rest)
  | '-' :: rest => some (-1, rest)
  | c :: rest => if c.toNat = 0x2212 then some (-1, rest) else none
  | [] => none

/-- An offset from UTC in seconds. -/
def offset : Reader Int
  | 'Z' :: rest => some (0, rest)
  | 'z' :: rest => some (0, rest)
  | cs => do
    let (sign, cs) ← offsetSign cs
    let (hours, cs) ← number 2 2 cs
    let (_, cs) ← mark ':' cs
    let (minutes, cs) ← number 2 2 cs
    if hours < 24 ∧ minutes < 60 then some (sign * (hours * 3600 + minutes * 60), cs) else none

/-- The character between date and time. -/
def separator : Reader Unit
  | c :: rest => if c = 'T' ∨ c = 't' ∨ c = ' ' then some ((), rest) else none
  | [] => none

/-- An instant in the internet format. -/
def readInternet? (cs : List Char) : Option Instant := do
  let (year, cs) ← number 4 4 cs
  let (_, cs) ← mark '-' cs
  let (month, cs) ← number 2 2 cs
  let (_, cs) ← mark '-' cs
  let (day, cs) ← number 2 2 cs
  let (_, cs) ← separator cs
  let (hour, cs) ← number 2 2 cs
  let (_, cs) ← mark ':' cs
  let (minute, cs) ← number 2 2 cs
  let (_, cs) ← mark ':' cs
  let (second, cs) ← number 2 2 cs
  let (nanoseconds, cs) ← fraction cs
  let (ahead, cs) ← offset cs
  let date ← Date.ofParts? year month day
  let time ← timeOfDay? hour minute second
  if cs.isEmpty then some (ofLocal date time nanoseconds ahead) else none

/-! ## Dates and times in UTC -/

/-- The years for which there are dates. -/
def isYear (year : Int) : Bool := -262143 ≤ year && year ≤ 262142

/-- A number of at most two digits, after blanks. -/
def field : Reader Nat := fun cs => number 1 2 (cs.dropWhile Text.isBlank)

/-- A year, after blanks: at most four digits without a sign, any number of them after one. -/
def year : Reader Int := fun cs =>
  match cs.dropWhile Text.isBlank with
  | '-' :: rest => (number 1 rest.length rest).map fun (n, rest) => (-n, rest)
  | '+' :: rest => (number 1 rest.length rest).map fun (n, rest) => (n, rest)
  | rest => (number 1 4 rest).map fun (n, rest) => (n, rest)

/-- A date at the front of a text. -/
def date : Reader Date := fun cs => do
  let (year, cs) ← year cs
  let (_, cs) ← mark '-' cs
  let (month, cs) ← field cs
  let (_, cs) ← mark '-' cs
  let (day, cs) ← field cs
  let date ← Date.ofParts? year month day
  if isYear year then some (date, cs) else none

/-- A time of day at the front of a text. -/
def timeOfDay : Reader (Nat × Nat) := fun cs => do
  let (hour, cs) ← field cs
  let (_, cs) ← mark ':' cs
  let (minute, cs) ← field cs
  let (_, cs) ← mark ':' cs
  let (second, cs) ← field cs
  let time ← timeOfDay? hour minute second
  some (time, cs)

/-- An instant as a date and a time of day in UTC. -/
def readDateTime? (cs : List Char) : Option Instant := do
  let (date, cs) ← date cs
  let (time, cs) ← timeOfDay (cs.dropWhile Text.isBlank)
  if cs.isEmpty then some (ofLocal date time 0 0) else none

/-- An instant as a date. -/
def readDate? (cs : List Char) : Option Instant := do
  let (date, cs) ← date cs
  if cs.isEmpty then some (ofLocal date (0, 0) 0 0) else none

/-! ## All formats -/

/-- The instant that a text stands for, in the first format that reads it. -/
def read? (text : String) : Option Instant :=
  let cs := text.toList
  readInternet? cs <|> readDateTime? cs <|> readDate? cs

end FileSieve.Instant
