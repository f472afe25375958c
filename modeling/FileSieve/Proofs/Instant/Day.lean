import Mathlib.Data.Int.Notation
import Mathlib.Tactic.Common
import FileSieve.Calendar
import FileSieve.Instant

/-!
# Days

The number of a day is what counting says: the first of January 1970 is day zero
(`Date.dayNumber_epoch`), and from a day to the next one (`Date.next`), over the ends of months and
years, it goes up by one (`Date.dayNumber_next`).  The midnights of successive days lie 86400
seconds apart (`Instant.midnight_next`).
-/

namespace FileSieve

namespace Calendar

/-! ## Years and months -/

lemma isLeap_iff (year : ℤ) :
    isLeap year = true ↔ 4 ∣ year ∧ (¬ 100 ∣ year ∨ 400 ∣ year) := by
  simp only [isLeap, Bool.and_eq_true, Bool.or_eq_true, beq_iff_eq, bne_iff_ne, ne_eq,
    Int.dvd_iff_emod_eq_zero]

lemma daysBeforeMonth_twelve (year : ℤ) :
    daysBeforeMonth year 12 = if isLeap year then 335 else 334 := by
  simp only [daysBeforeMonth, daysInMonth]
  split <;> rfl

/-- A year is as long as its months are together; December has 31 days. -/
lemma daysBeforeYear_succ (year : ℤ) :
    daysBeforeYear (year + 1) = daysBeforeYear year + daysBeforeMonth year 12 + 31 := by
  simp only [daysBeforeMonth_twelve, daysBeforeYear, isLeap_iff]
  split <;> omega

lemma daysBeforeMonth_succ (year : ℤ) {month : ℕ} (h : 1 ≤ month) :
    daysBeforeMonth year (month + 1) = daysBeforeMonth year month + daysInMonth year month := by
  cases month with
  | zero => omega
  | succ month => rfl

/-- The months that have days are the twelve of the year. -/
lemma one_le_daysInMonth_iff {year : ℤ} {month : ℕ} :
    1 ≤ daysInMonth year month ↔ 1 ≤ month ∧ month ≤ 12 := by
  constructor
  · intro h
    unfold daysInMonth at h
    split at h <;> omega
  · rintro ⟨hge, hle⟩
    unfold daysInMonth
    split <;> grind

end Calendar

open Calendar

namespace Date

/-! ## The next day -/

lemma one_le_month (d : Date) : 1 ≤ d.month :=
  (one_le_daysInMonth_iff.mp (Nat.le_trans d.one_le_day d.day_le)).1

lemma month_le (d : Date) : d.month ≤ 12 :=
  (one_le_daysInMonth_iff.mp (Nat.le_trans d.one_le_day d.day_le)).2

/-- The day after a day. -/
def next (d : Date) : Date :=
  if h : d.day < daysInMonth d.year d.month then
    ⟨d.year, d.month, d.day + 1, Nat.le_add_left 1 d.day, h⟩
  else if h : d.month < 12 then
    ⟨d.year, d.month + 1, 1, Nat.le_refl 1,
      one_le_daysInMonth_iff.mpr ⟨Nat.le_add_left 1 d.month, h⟩⟩
  else ⟨d.year + 1, 1, 1, Nat.le_refl 1, one_le_daysInMonth_iff.mpr (by decide)⟩

lemma dayNumber_epoch : dayNumber ⟨1970, 1, 1, by decide, by decide⟩ = 0 := rfl

lemma dayNumber_next (d : Date) : d.next.dayNumber = d.dayNumber + 1 := by
  have hday := d.day_le
  have hone := d.one_le_month
  have hmonth := d.month_le
  rw [next]
  split
  · simp only [dayNumber]
    omega
  · split
    · have hlast : d.day = daysInMonth d.year d.month := by omega
      simp only [dayNumber, daysBeforeMonth_succ d.year hone, hlast]
      omega
    · have htwelve : d.month = 12 := by omega
      have hlast : d.day = 31 := by
        have hdays : daysInMonth d.year d.month = 31 := by rw [htwelve]; rfl
        omega
      have hfirst : daysBeforeMonth (d.year + 1) 1 = 0 := rfl
      simp only [dayNumber, htwelve, hlast, daysBeforeYear_succ, hfirst]
      omega

end Date

/-! ## Midnight -/

/-- The first instant of a day. -/
def Instant.midnight (d : Date) : Instant := ⟨d.dayNumber * 86400, 0⟩

lemma Instant.midnight_next (d : Date) :
    midnight d.next = ⟨(midnight d).seconds + 86400, 0⟩ := by
  simp only [midnight, d.dayNumber_next, mk.injEq, and_true]
  omega

end FileSieve
