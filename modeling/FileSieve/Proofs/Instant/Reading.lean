import Mathlib.Data.List.TakeWhile
import FileSieve.Instant.Read
import FileSieve.Proofs.Instant.Day
import FileSieve.Proofs.Text.Numeral

/-!
# Reading the three formats

A date (`Instant.DateText`), a time of day (`Instant.TimeText`) and an offset
(`Instant.OffsetText`) are written with numerals of fixed width.  Each reader takes one of them from
the front of a text and leaves what follows (`Instant.date_append`, `Instant.timeOfDay_append`,
`Instant.offset_chars`).  Put together they say what becomes of a text of each format, in its own
reader and in those that are asked before it or after it (`Instant.read?_date`,
`Instant.read?_dateTime`, `Instant.read?_internet`).
-/

namespace FileSieve.Instant

open Text

/-! ## What is written -/

/-- A date in digits; there need not be such a day. -/
structure DateText where
  /-- The year. -/
  year : Numeral 4
  /-- The month. -/
  month : Numeral 2
  /-- The day of the month. -/
  day : Numeral 2

/-- A time of day in digits. -/
structure TimeText where
  /-- The hour. -/
  hour : Numeral 2
  /-- The minute. -/
  minute : Numeral 2
  /-- The second. -/
  second : Numeral 2

/-- An offset from UTC in digits. -/
structure OffsetText where
  /-- Whether the time is ahead of UTC, and not behind it. -/
  ahead : Bool
  /-- The hours. -/
  hours : Numeral 2
  /-- The minutes. -/
  minutes : Numeral 2

/-- A date as characters. -/
def DateText.chars (t : DateText) : List Char :=
  t.year.digits ++ '-' :: (t.month.digits ++ '-' :: t.day.digits)

/-- A time of day as characters. -/
def TimeText.chars (t : TimeText) : List Char :=
  t.hour.digits ++ ':' :: (t.minute.digits ++ ':' :: t.second.digits)

/-- An offset as characters. -/
def OffsetText.chars (t : OffsetText) : List Char :=
  (if t.ahead then '+' else '-') :: (t.hours.digits ++ ':' :: t.minutes.digits)

/-- The seconds by which a time with this offset is ahead of UTC. -/
def OffsetText.seconds (t : OffsetText) : ℤ :=
  (if t.ahead then 1 else -1) * (t.hours.value * 3600 + t.minutes.value * 60)

/-- The day that is written, if there is one. -/
def DateText.date? (t : DateText) : Option Date :=
  Date.ofParts? t.year.value t.month.value t.day.value

/-- Whether a day is the one that is written. -/
def DateText.Writes (t : DateText) (d : Date) : Prop :=
  d.year = t.year.value ∧ d.month = t.month.value ∧ d.day = t.day.value

lemma DateText.date?_eq_some_iff {t : DateText} {d : Date} : t.date? = some d ↔ t.Writes d := by
  obtain ⟨year, month, day, hone, hday⟩ := d
  rw [DateText.date?, Date.ofParts?, DateText.Writes]
  constructor
  · intro h
    split at h
    · cases h
      exact ⟨rfl, rfl, rfl⟩
    · contradiction
  · rintro ⟨rfl, rfl, rfl⟩
    rw [dif_pos ⟨hone, hday⟩]

/-- The time of day that is written, if there is one. -/
def TimeText.time? (u : TimeText) : Option (ℕ × ℕ) :=
  timeOfDay? u.hour.value u.minute.value u.second.value

/-- A date as text. -/
def DateText.text (t : DateText) : String := t.year.text ++ "-" ++ t.month.text ++ "-" ++ t.day.text

/-- A time of day as text. -/
def TimeText.text (u : TimeText) : String :=
  u.hour.text ++ ":" ++ u.minute.text ++ ":" ++ u.second.text

/-- An offset as text. -/
def OffsetText.text (o : OffsetText) : String :=
  (if o.ahead then "+" else "-") ++ o.hours.text ++ ":" ++ o.minutes.text

@[simp] lemma DateText.toList_text (t : DateText) : t.text.toList = t.chars := by
  simp [text, chars]

@[simp] lemma TimeText.toList_text (u : TimeText) : u.text.toList = u.chars := by
  simp [text, chars]

@[simp] lemma OffsetText.toList_text (o : OffsetText) : o.text.toList = o.chars := by
  cases h : o.ahead <;> simp [text, chars, h]

/-! ## Numbers -/

section Numbers

variable {width : ℕ} (n : Numeral width) (rest : List Char)

/-- A numeral is read from the front of a text, whatever follows it. -/
lemma number_append {least : ℕ} (h : least ≤ width) :
    number least width (n.digits ++ rest) = some (n.value, rest) := by
  have hlead : leadingDigits width (n.digits ++ rest) = n.digits := by
    rw [leadingDigits, List.take_left' n.length_eq, List.takeWhile_eq_self_iff]
    exact n.isDigit_of_mem
  rw [number]
  simp [hlead, n.length_eq, Nat.not_lt.mpr h, decimal_eq_value, Numeral.value]

/-- No blank is skipped in front of a numeral. -/
lemma dropWhile_isBlank_append (n : Numeral (width + 1)) :
    (n.digits ++ rest).dropWhile isBlank = n.digits ++ rest := by
  obtain ⟨c, cs, hcs⟩ := n.exists_cons
  have hdigit : c.isDigit = true := n.isDigit_of_mem c (by simp [hcs])
  simp [hcs, isBlank_eq_false_of_isDigit hdigit]

lemma field_append (n : Numeral 2) : field (n.digits ++ rest) = some (n.value, rest) := by
  rw [field, dropWhile_isBlank_append, number_append _ _ (by decide)]

lemma year_append (n : Numeral 4) :
    year (n.digits ++ rest) = some ((n.value : ℤ), rest) := by
  obtain ⟨c, cs, hcs⟩ := n.exists_cons
  have hdigit : c.isDigit = true := n.isDigit_of_mem c (by simp [hcs])
  have hnumber : number 1 4 (n.digits ++ rest) = some (n.value, rest) :=
    number_append n rest (by decide)
  rw [year, dropWhile_isBlank_append]
  rw [hcs, List.cons_append] at hnumber ⊢
  split
  next hc =>
    obtain rfl := (List.cons.inj hc).1
    contradiction
  next hc =>
    obtain rfl := (List.cons.inj hc).1
    contradiction
  next => rw [hnumber, Option.map_some]

end Numbers

/-! ## Dates, times of day and offsets -/

section Parts

variable (t : DateText) (u : TimeText) (o : OffsetText) (rest : List Char)

lemma mark_cons (c : Char) : mark c (c :: rest) = some ((), rest) := if_pos rfl

lemma isYear_value : isYear (t.year.value : ℤ) = true := by
  have hlt := t.year.value_lt
  simp only [isYear, Bool.and_eq_true, decide_eq_true_eq]
  omega

lemma date_append : date (t.chars ++ rest) = t.date?.map (·, rest) := by
  simp only [DateText.chars, date, List.append_assoc, List.cons_append, year_append, mark_cons,
    field_append, isYear_value, DateText.date?, Option.bind_eq_bind, Option.bind_some]
  cases Date.ofParts? t.year.value t.month.value t.day.value <;> rfl

lemma timeOfDay_append : timeOfDay (u.chars ++ rest) = u.time?.map (·, rest) := by
  simp only [TimeText.chars, TimeText.time?, timeOfDay, List.append_assoc, List.cons_append,
    mark_cons, field_append, Option.bind_eq_bind, Option.bind_some]
  cases timeOfDay? u.hour.value u.minute.value u.second.value <;> rfl

lemma time?_eq {u : TimeText} (hhour : u.hour.value < 24) (hminute : u.minute.value < 60)
    (hsecond : u.second.value < 60) : u.time? =
      some (u.hour.value * 3600 + u.minute.value * 60 + u.second.value, 0) := by
  simp [TimeText.time?, timeOfDay?, hhour, hminute, hsecond]

lemma fraction_chars : fraction o.chars = some (0, o.chars) := by
  cases hahead : o.ahead <;> simp [OffsetText.chars, hahead, fraction]

lemma offset_chars (hhours : o.hours.value < 24) (hminutes : o.minutes.value < 60) :
    offset o.chars = some (o.seconds, []) := by
  have hminutes' : number 2 2 (o.minutes.digits ++ []) = some (o.minutes.value, []) :=
    number_append o.minutes [] (Nat.le_refl 2)
  rw [List.append_nil] at hminutes'
  cases hahead : o.ahead <;>
    simp [OffsetText.chars, OffsetText.seconds, hahead, offset, offsetSign, number_append,
      mark_cons, hminutes', hhours, hminutes]

end Parts

/-! ## Formats -/

section Formats

variable (t : DateText) (u : TimeText) (rest : List Char)

lemma bind_of_eq_some {β γ : Type} {x : Option β} {a : β} (h : x = some a) (f : β → Option γ) :
    (x >>= f) = f a := by
  rw [h]
  rfl

/-- The internet format after the date, up to what the three parts say together. -/
def afterDate (t : DateText) (cs : List Char) : Option Instant := do
  let (_, cs) ← separator cs
  let (hour, cs) ← number 2 2 cs
  let (_, cs) ← mark ':' cs
  let (minute, cs) ← number 2 2 cs
  let (_, cs) ← mark ':' cs
  let (second, cs) ← number 2 2 cs
  let (nanoseconds, cs) ← fraction cs
  let (ahead, cs) ← offset cs
  let date ← t.date?
  let time ← timeOfDay? hour minute second
  if cs.isEmpty then some (ofLocal date time nanoseconds ahead) else none

lemma readInternet?_eq_afterDate : readInternet? (t.chars ++ rest) = afterDate t rest := by
  rw [DateText.chars, List.append_assoc, List.cons_append, List.append_assoc, List.cons_append]
  refine (bind_of_eq_some (number_append t.year _ (Nat.le_refl 4)) _).trans ?_
  refine (bind_of_eq_some (mark_cons _ '-') _).trans ?_
  refine (bind_of_eq_some (number_append t.month _ (Nat.le_refl 2)) _).trans ?_
  refine (bind_of_eq_some (mark_cons _ '-') _).trans ?_
  exact bind_of_eq_some (number_append t.day _ (Nat.le_refl 2)) _

/-- A date and a time of day in the internet format, up to what is made of the offset. -/
lemma afterDate_append {c : Char} (hc : c = 'T' ∨ c = 't' ∨ c = ' ') {zone : List Char}
    (hzone : fraction zone = some (0, zone)) :
    afterDate t (c :: (u.chars ++ zone)) = (offset zone).bind fun ahead =>
      t.date?.bind fun date => u.time?.bind fun time =>
        if ahead.2.isEmpty then some (ofLocal date time 0 ahead.1) else none := by
  rw [TimeText.chars, List.append_assoc, List.cons_append, List.append_assoc, List.cons_append]
  refine (bind_of_eq_some (if_pos hc) _).trans ?_
  refine (bind_of_eq_some (number_append u.hour _ (Nat.le_refl 2)) _).trans ?_
  refine (bind_of_eq_some (mark_cons _ ':') _).trans ?_
  refine (bind_of_eq_some (number_append u.minute _ (Nat.le_refl 2)) _).trans ?_
  refine (bind_of_eq_some (mark_cons _ ':') _).trans ?_
  refine (bind_of_eq_some (number_append u.second _ (Nat.le_refl 2)) _).trans ?_
  exact bind_of_eq_some hzone _

/-- Only a date is not in the internet format. -/
lemma readInternet?_chars : readInternet? t.chars = none := by
  have h := readInternet?_eq_afterDate t []
  rwa [List.append_nil] at h

lemma readDateTime?_append : readDateTime? (t.chars ++ rest) = t.date?.bind fun date =>
    (timeOfDay (rest.dropWhile isBlank)).bind fun time =>
      if time.2.isEmpty then some (ofLocal date time.1 0 0) else none := by
  rw [readDateTime?, date_append]
  cases t.date? <;> rfl

lemma readDate?_append : readDate? (t.chars ++ rest) = t.date?.bind fun date =>
    if rest.isEmpty then some (midnight date) else none := by
  rw [readDate?, date_append]
  cases t.date? with
  | none => rfl
  | some date => simp [midnight, ofLocal]

/-- A date stands for its midnight. -/
theorem read?_date : read? t.text = t.date?.map midnight := by
  have hdate := readDate?_append t []
  have htime := readDateTime?_append t []
  have hempty : timeOfDay (([] : List Char).dropWhile isBlank) = none := rfl
  rw [List.append_nil] at hdate htime
  rw [read?, t.toList_text, readInternet?_chars, htime, hdate, hempty]
  cases t.date? <;> rfl

/-- A date and a time of day are in UTC. -/
theorem read?_dateTime : read? (t.text ++ " " ++ u.text) =
    t.date?.bind fun date => u.time?.map fun time => ofLocal date time 0 0 := by
  have hlist : (t.text ++ " " ++ u.text).toList = t.chars ++ ' ' :: u.chars := by simp
  have hinternet : readInternet? (t.chars ++ ' ' :: u.chars) = none := by
    have hnone : fraction [] = some (0, []) := rfl
    have h := afterDate_append t u (c := ' ') (.inr (.inr rfl)) hnone
    rw [List.append_nil] at h
    rw [readInternet?_eq_afterDate, h]
    rfl
  have htime : timeOfDay ((' ' :: u.chars).dropWhile isBlank) = u.time?.map (·, []) := by
    have hchars : (' ' :: u.chars).dropWhile isBlank = u.chars := by
      rw [List.dropWhile_cons_of_pos (by decide), TimeText.chars, dropWhile_isBlank_append]
    have hread := timeOfDay_append u []
    rw [List.append_nil] at hread
    rw [hchars, hread]
  rw [read?, hlist, hinternet, readDateTime?_append, readDate?_append, htime]
  cases t.date? <;> cases u.time? <;> rfl

/-- In the internet format the time of day is ahead of UTC by the offset. -/
theorem read?_internet {zone : String} {ahead : ℤ}
    (hzone : fraction zone.toList = some (0, zone.toList))
    (hoffset : offset zone.toList = some (ahead, [])) : read? (t.text ++ "T" ++ u.text ++ zone) =
      t.date?.bind fun date => u.time?.map fun time => ofLocal date time 0 ahead := by
  have hlist : (t.text ++ "T" ++ u.text ++ zone).toList =
      t.chars ++ 'T' :: (u.chars ++ zone.toList) := by simp
  -- the other formats are stopped by the `T`, if not by the date
  have htime : timeOfDay (('T' :: (u.chars ++ zone.toList)).dropWhile isBlank) = none := rfl
  rw [read?, hlist, readInternet?_eq_afterDate, afterDate_append t u (.inl rfl) hzone, hoffset,
    readDateTime?_append, readDate?_append, htime]
  cases t.date? <;> cases u.time? <;> rfl

/-- In the internet format `Z` stands for UTC. -/
theorem read?_utc : read? (t.text ++ "T" ++ u.text ++ "Z") =
    t.date?.bind fun date => u.time?.map fun time => ofLocal date time 0 0 :=
  read?_internet t u rfl rfl

end Formats

end FileSieve.Instant
