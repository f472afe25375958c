import FileSieve.Builtin
import FileSieve.Proofs.Instant.Reading

/-!
# Times of change

An operand that asks for newer files is prepared for the texts that are read as instants, and holds
of what was changed strictly after that (`Builtin.IsNewerThan`).  All the formats agree on the
instants (`Builtin.newer_formats`): a date is its midnight in UTC, a time of day is counted from
there, and an offset is subtracted.
-/

namespace FileSieve.Builtin

open Instant Text

/-- Whether the operand with the given text holds of exactly what was changed after an instant. -/
def IsNewerThan (raw : String) (instant : Instant) : Prop :=
  read? raw = some instant ∧ ∃ prepared, prepare (.newer raw none) = .ok prepared ∧
    ∀ subject : Subject, eval prepared subject = true ↔
      ∃ modified, subject.modTime = some modified ∧
        (instant.seconds < modified.seconds ∨
          modified.seconds = instant.seconds ∧ instant.nanoseconds < modified.nanoseconds)

/-- Whether the operand with the given text is refused. -/
def IsNoTime (raw : String) : Prop :=
  read? raw = none ∧ ∃ refusal : Refusal, prepare (.newer raw none) = .error refusal ∧
    refusal.message = "invalid time: " ++ raw

lemma isNewerThan_of_read? {raw : String} {instant : Instant} (h : read? raw = some instant) :
    IsNewerThan raw instant := by
  refine ⟨h, .newer raw (some instant), by rw [prepare, h], fun subject => ?_⟩
  rcases hmodified : subject.modTime with - | modified
  · simp [eval, hmodified]
  · simp [eval, hmodified, isAfter_iff]

lemma isNoTime_of_read? {raw : String} (h : read? raw = none) : IsNoTime raw :=
  ⟨h, .time raw, by rw [prepare, h], rfl⟩

/-- Midnight as it is written. -/
def zeroTime : TimeText where
  hour := ⟨['0', '0'], rfl, by simp⟩
  minute := ⟨['0', '0'], rfl, by simp⟩
  second := ⟨['0', '0'], rfl, by simp⟩

lemma text_zeroTime : zeroTime.text = "00:00:00" := by decide

lemma time?_zeroTime : zeroTime.time? = some (0, 0) := by decide

lemma ofLocal_midnight (date : Date) : ofLocal date (0, 0) 0 0 = midnight date := by
  simp [ofLocal, midnight]

section Formats

variable {t : DateText} {date : Date}

/-- A text of a day that is not in the calendar is refused in every format. -/
lemma isNoTime_of_date? (h : t.date? = none) : IsNoTime t.text ∧
    IsNoTime (t.text ++ " " ++ "00:00:00") ∧ IsNoTime (t.text ++ "T" ++ "00:00:00" ++ "Z") := by
  refine ⟨isNoTime_of_read? ?_, isNoTime_of_read? ?_, isNoTime_of_read? ?_⟩
  · rw [read?_date, h, Option.map_none]
  · rw [← text_zeroTime, read?_dateTime, h, Option.bind_none]
  · rw [← text_zeroTime, read?_utc, h, Option.bind_none]

/-- A day is its midnight in every format. -/
lemma isNewerThan_midnight (h : t.date? = some date) : IsNewerThan t.text (midnight date) ∧
    IsNewerThan (t.text ++ " " ++ "00:00:00") (midnight date) ∧
    IsNewerThan (t.text ++ "T" ++ "00:00:00" ++ "Z") (midnight date) := by
  refine ⟨isNewerThan_of_read? ?_, isNewerThan_of_read? ?_, isNewerThan_of_read? ?_⟩
  · rw [read?_date, h, Option.map_some]
  · rw [← text_zeroTime, read?_dateTime, h, time?_zeroTime, Option.bind_some, Option.map_some,
      ofLocal_midnight]
  · rw [← text_zeroTime, read?_utc, h, time?_zeroTime,
      Option.bind_some, Option.map_some, ofLocal_midnight]

end Formats

/-- The formats of a time agree.  Midnights are a day of 86400 seconds apart, counted from the first
of January 1970.  A day that is not in the calendar is refused in every format, and every other one
stands for its midnight.  A time of day is added to that, and an offset is subtracted.  Operands
that are given the same instant hold of the same subjects, of those that were changed after it. -/
theorem newer_formats :
    (midnight ⟨1970, 1, 1, by decide, by decide⟩ = ⟨0, 0⟩ ∧
      ∀ date : Date, midnight date.next = ⟨(midnight date).seconds + 86400, 0⟩) ∧
    ∀ t : DateText,
      ((¬ ∃ date, t.Writes date) → IsNoTime t.text ∧
        IsNoTime (t.text ++ " " ++ "00:00:00") ∧
        IsNoTime (t.text ++ "T" ++ "00:00:00" ++ "Z")) ∧
      ∀ date, t.Writes date →
        (IsNewerThan t.text (midnight date) ∧
          IsNewerThan (t.text ++ " " ++ "00:00:00") (midnight date) ∧
          IsNewerThan (t.text ++ "T" ++ "00:00:00" ++ "Z") (midnight date)) ∧
        ∀ u : TimeText, u.hour.value < 24 → u.minute.value < 60 → u.second.value < 60 →
          ∃ instant : Instant,
            instant = ⟨(midnight date).seconds +
              (u.hour.value * 3600 + u.minute.value * 60 + u.second.value), 0⟩ ∧
            IsNewerThan (t.text ++ " " ++ u.text) instant ∧
            IsNewerThan (t.text ++ "T" ++ u.text ++ "Z") instant ∧
            ∀ o : OffsetText, o.hours.value < 24 → o.minutes.value < 60 →
              IsNewerThan (t.text ++ "T" ++ u.text ++ o.text)
                ⟨instant.seconds - o.seconds, 0⟩ := by
  refine ⟨⟨rfl, fun date => ?_⟩, fun t => ⟨fun hnone => ?_, fun date hwrites => ⟨?_, ?_⟩⟩⟩
  · exact midnight_next date
  · have hdate : t.date? = none := Option.eq_none_iff_forall_ne_some.mpr fun date hdate =>
      hnone ⟨date, DateText.date?_eq_some_iff.mp hdate⟩
    exact isNoTime_of_date? hdate
  · exact isNewerThan_midnight (DateText.date?_eq_some_iff.mpr hwrites)
  · intro u hhour hminute hsecond
    have hdate := DateText.date?_eq_some_iff.mpr hwrites
    have htime := time?_eq hhour hminute hsecond
    have hlocal : ∀ ahead : ℤ, ofLocal date
        (u.hour.value * 3600 + u.minute.value * 60 + u.second.value, 0) 0 ahead =
          ⟨(midnight date).seconds +
            (u.hour.value * 3600 + u.minute.value * 60 + u.second.value) - ahead, 0⟩ := by
      intro ahead
      simp [ofLocal, midnight]
    refine ⟨_, rfl, isNewerThan_of_read? ?_, isNewerThan_of_read? ?_,
      fun o hhours hminutes => isNewerThan_of_read? ?_⟩
    · rw [read?_dateTime, hdate, htime, Option.bind_some, Option.map_some, hlocal, Int.sub_zero]
    · rw [read?_utc, hdate, htime, Option.bind_some,
        Option.map_some, hlocal, Int.sub_zero]
    · rw [read?_internet t u (by rw [o.toList_text, fraction_chars])
        (by rw [o.toList_text, offset_chars o hhours hminutes]), hdate, htime, Option.bind_some,
        Option.map_some, hlocal]

/-- A leap day is a day of its year and of no other one, and an hour behind UTC the last half hour
of 2024 is in 2025. -/
theorem newer_formats_yearEnd :
    IsNewerThan "2024-02-29" (midnight ⟨2024, 2, 29, by decide, by decide⟩) ∧
    IsNoTime "2023-02-29" ∧
    IsNewerThan "2024-12-31T23:30:00-01:00"
      ⟨(midnight ⟨2025, 1, 1, by decide, by decide⟩).seconds + 1800, 0⟩ := by
  let february : Numeral 2 := ⟨['0', '2'], rfl, by simp⟩
  let leapDay : DateText := ⟨⟨['2', '0', '2', '4'], rfl, by simp⟩, february,
    ⟨['2', '9'], rfl, by simp⟩⟩
  let noDay : DateText := ⟨⟨['2', '0', '2', '3'], rfl, by simp⟩, february,
    ⟨['2', '9'], rfl, by simp⟩⟩
  let lastDay : DateText := ⟨⟨['2', '0', '2', '4'], rfl, by simp⟩, ⟨['1', '2'], rfl, by simp⟩,
    ⟨['3', '1'], rfl, by simp⟩⟩
  let late : TimeText := ⟨⟨['2', '3'], rfl, by simp⟩, ⟨['3', '0'], rfl, by simp⟩,
    ⟨['0', '0'], rfl, by simp⟩⟩
  let behind : OffsetText :=
    ⟨false, ⟨['0', '1'], rfl, by simp⟩, ⟨['0', '0'], rfl, by simp⟩⟩
  have hleap : leapDay.Writes ⟨2024, 2, 29, by decide, by decide⟩ := by
    refine ⟨by decide +kernel, by decide +kernel, by decide +kernel⟩
  have hlast : lastDay.Writes ⟨2024, 12, 31, by decide, by decide⟩ := by
    refine ⟨by decide +kernel, by decide +kernel, by decide +kernel⟩
  have hnone : ¬ ∃ date, noDay.Writes date := by
    rintro ⟨date, hdate⟩
    have hread : noDay.date? = none := by decide +kernel
    rw [DateText.date?_eq_some_iff.mpr hdate] at hread
    contradiction
  obtain ⟨-, hformats⟩ := newer_formats
  obtain ⟨instant, hinstant, -, -, hoffsets⟩ :=
    ((hformats lastDay).2 _ hlast).2 late (by decide +kernel) (by decide +kernel)
      (by decide +kernel)
  have hlate := hoffsets behind (by decide +kernel) (by decide +kernel)
  have hseconds : instant.seconds - behind.seconds =
      (midnight ⟨2025, 1, 1, by decide, by decide⟩).seconds + 1800 := by
    rw [hinstant]
    decide +kernel
  have htext : lastDay.text ++ "T" ++ late.text ++ behind.text = "2024-12-31T23:30:00-01:00" := by
    decide +kernel
  rw [hseconds, htext] at hlate
  exact ⟨((hformats leapDay).2 _ hleap).1.1, ((hformats noDay).1 hnone).1, hlate⟩

end FileSieve.Builtin
