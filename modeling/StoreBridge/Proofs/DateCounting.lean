import Mathlib
import StoreBridge.DateTime

/-! Dates counted one by one. After a date comes the next day of its month, after the last day the
first of the next month, and after the last month the first of January. The number of a date is the
number of such steps that lead to it from the beginning of year 1, so that a date is found again
from its number. Date/times are compared field by field from the year down; for all but leap seconds
this is the order of their nanoseconds, and from the beginning of year 1 on the nanoseconds tell
the date/time. -/
namespace StoreBridge

namespace Calendar

theorem one_le_daysInMonth (year : Int) (month : Nat) : 1 ≤ daysInMonth year month := by
  unfold daysInMonth
  split
  · split <;> decide
  all_goals decide

/-- A date of the calendar. -/
structure Date where
  year : Int
  month : Nat
  day : Nat
  month_range : 1 ≤ month ∧ month ≤ 12
  day_range : 1 ≤ day ∧ day ≤ daysInMonth year month
deriving DecidableEq

namespace Date

/-- The date from which dates are counted. -/
def first : Date :=
  ⟨1, 1, 1, by decide, by decide⟩

/-- The date after a date. -/
def next (d : Date) : Date :=
  if inMonth : d.day < daysInMonth d.year d.month then
    ⟨d.year, d.month, d.day + 1, d.month_range, Nat.succ_pos _, inMonth⟩
  else if inYear : d.month < 12 then
    ⟨d.year, d.month + 1, 1, ⟨Nat.succ_pos _, inYear⟩, Nat.le_refl 1, one_le_daysInMonth _ _⟩
  else ⟨d.year + 1, 1, 1, by decide, Nat.le_refl 1, one_le_daysInMonth _ _⟩

/-- The number of days from the first of January of year 1. -/
def number (d : Date) : Int :=
  dayNumber d.year d.month d.day

/-- What dates are compared by: the year, then the month, then the day. -/
def key (d : Date) : Int ×ₗ Nat ×ₗ Nat :=
  toLex (d.year, toLex (d.month, d.day))

theorem key_injective : Function.Injective key := by
  intro a b same
  cases a
  cases b
  simpa [key] using same

instance : LinearOrder Date :=
  LinearOrder.lift' key key_injective

theorem lt_iff {a b : Date} : a < b ↔
    a.year < b.year ∨ a.year = b.year ∧ (a.month < b.month ∨ a.month = b.month ∧ a.day < b.day) := by
  show key a < key b ↔ _
  simp [key, Prod.Lex.toLex_lt_toLex]

end Date

/-- The days before a month and those of the month are the days before the next month. -/
theorem daysBeforeMonth_succ (year : Int) {month : Nat} (positive : 1 ≤ month) :
    daysBeforeMonth year (month + 1) = daysBeforeMonth year month + daysInMonth year month := by
  cases month with
  | zero => cases positive
  | succ month => rfl

theorem daysBeforeMonth_mono (year : Int) {m n : Nat} (positive : 1 ≤ m) (order : m ≤ n) :
    daysBeforeMonth year m ≤ daysBeforeMonth year n := by
  induction n, order using Nat.le_induction with
  | base => exact Nat.le_refl _
  | succ n later ih =>
    rw [daysBeforeMonth_succ year (Nat.le_trans positive later)]
    exact Nat.le_add_right_of_le ih

/-- The number of days of a year. -/
def daysInYear (year : Int) : Nat :=
  if isLeapYear year then 366 else 365

/-- The twelve months make up the year. -/
theorem daysBeforeMonth_last (year : Int) :
    daysBeforeMonth year 12 + daysInMonth year 12 = daysInYear year := by
  by_cases leap : isLeapYear year = true <;> simp [daysBeforeMonth, daysInMonth, daysInYear, leap]

/-- The days before a year and those of the year are the days before the next year. -/
theorem daysBeforeYear_succ (year : Int) :
    daysBeforeYear (year + 1) = daysBeforeYear year + daysInYear year := by
  by_cases leap : isLeapYear year = true
  · have days : daysInYear year = 366 := if_pos leap
    simp only [isLeapYear, Bool.and_eq_true, Bool.or_eq_true, decide_eq_true_eq] at leap
    simp only [daysBeforeYear, days]
    omega
  · have days : daysInYear year = 365 := if_neg leap
    simp only [isLeapYear, Bool.and_eq_true, Bool.or_eq_true, decide_eq_true_eq] at leap
    simp only [daysBeforeYear, days]
    omega

theorem daysBeforeYear_mono : Monotone daysBeforeYear := by
  apply monotone_int_of_le_succ
  intro year
  rw [daysBeforeYear_succ]
  omega

namespace Date

/-- A date lies in its year. -/
theorem number_bounds (d : Date) :
    daysBeforeYear d.year ≤ d.number ∧ d.number < daysBeforeYear (d.year + 1) := by
  have months := d.month_range
  have days := d.day_range
  have earlier : daysBeforeMonth d.year (d.month + 1) ≤ daysBeforeMonth d.year 13 :=
    daysBeforeMonth_mono d.year (by omega) (by omega)
  rw [daysBeforeMonth_succ d.year months.1, daysBeforeMonth_succ d.year (by decide),
    daysBeforeMonth_last] at earlier
  rw [daysBeforeYear_succ]
  unfold number dayNumber
  omega

/-- The numbers of dates are in the order of the dates. -/
theorem number_strictMono : StrictMono number := by
  intro a b before
  have daysA := a.day_range
  have daysB := b.day_range
  rcases lt_iff.mp before with year | ⟨year, month | ⟨month, day⟩⟩
  · have years := daysBeforeYear_mono (show a.year + 1 ≤ b.year from year)
    exact lt_of_lt_of_le a.number_bounds.2 (le_trans years b.number_bounds.1)
  · have months := daysBeforeMonth_mono a.year (Nat.succ_pos a.month) month
    rw [daysBeforeMonth_succ a.year a.month_range.1] at months
    unfold number dayNumber
    rw [← year]
    omega
  · unfold number dayNumber
    rw [← year, ← month]
    omega

/-- One step to the next date counts one. -/
theorem number_next (d : Date) : d.next.number = d.number + 1 := by
  have months := d.month_range
  have days := d.day_range
  unfold next
  split
  · simp only [number, dayNumber]
    omega
  · split
    · have before := daysBeforeMonth_succ d.year months.1
      simp only [number, dayNumber]
      omega
    · have last : d.month = 12 := by omega
      have year := daysBeforeYear_succ d.year
      have whole := daysBeforeMonth_last d.year
      rw [last] at days
      simp only [number, dayNumber, daysBeforeMonth, last] at *
      omega

/-- The year 1900 has no leap day. -/
example : next ⟨1900, 2, 28, by decide, by decide⟩ = ⟨1900, 3, 1, by decide, by decide⟩ := by
  decide

/-- So many steps lead to the date with this number. -/
theorem number_iterate (n : Nat) : (next^[n] first).number = n := by
  induction n with
  | zero => decide
  | succ n ih =>
    rw [Function.iterate_succ_apply', number_next, ih]
    rfl

/-- A date is found by counting up to its number. -/
theorem iterate_number {d : Date} {n : Nat} (counted : d.number = n) : next^[n] first = d := by
  apply number_strictMono.injective
  rw [number_iterate, counted]

theorem number_nonneg_iff (d : Date) : 0 ≤ d.number ↔ 1 ≤ d.year := by
  have bounds := d.number_bounds
  have start : daysBeforeYear 1 = 0 := by decide
  constructor
  · intro counted
    by_contra early
    have years := daysBeforeYear_mono (show d.year + 1 ≤ 1 by omega)
    omega
  · intro late
    have years := daysBeforeYear_mono late
    omega

end Date
end Calendar

namespace DateTime
open Calendar

/-- The date of a date/time. -/
def date (t : DateTime) : Date :=
  ⟨t.year, t.month, t.day, t.fits.month_range, t.fits.day_range⟩

theorem number_date (t : DateTime) : t.date.number = t.dayNumber :=
  rfl

/-- What date/times are compared by: the date, then the hour, the minute, the second and the
fraction. -/
def key (t : DateTime) : Date ×ₗ Nat ×ₗ Nat ×ₗ Nat ×ₗ Nat :=
  toLex (t.date, toLex (t.hour, toLex (t.minute, toLex (t.second, t.nano))))

theorem key_injective : Function.Injective key := by
  intro a b same
  cases a
  cases b
  simp only [key, date, EmbeddingLike.apply_eq_iff_eq, Prod.mk.injEq, Date.mk.injEq] at same
  simp only [DateTime.mk.injEq]
  tauto

/-- Date/times are in the order of the calendar and the clock. -/
instance : LinearOrder DateTime :=
  LinearOrder.lift' key key_injective

theorem lt_iff {a b : DateTime} : a < b ↔
    a.date < b.date ∨ a.date = b.date ∧ (a.hour < b.hour ∨ a.hour = b.hour ∧
      (a.minute < b.minute ∨ a.minute = b.minute ∧
        (a.second < b.second ∨ a.second = b.second ∧ a.nano < b.nano))) := by
  show key a < key b ↔ _
  simp [key, Prod.Lex.toLex_lt_toLex]

/-- Only a leap second has a fraction of a second or more. -/
theorem nano_lt_of_ordinary {t : DateTime} (ordinary : t.isLeapSecond = false) :
    t.nano < 1000000000 := by
  simpa [isLeapSecond] using ordinary

/-- The seconds of a day are fewer than those of a whole one. -/
theorem secondOfDay_lt (t : DateTime) : t.secondOfDay < 86400 := by
  have hour := t.fits.hour_lt
  have minute := t.fits.minute_lt
  have second := t.fits.second_lt
  unfold secondOfDay
  omega

/-- What comes after a date/time that is no leap second has more nanoseconds. -/
theorem nanoseconds_lt {a b : DateTime} (ordinary : a.isLeapSecond = false) (before : a < b) :
    a.nanoseconds < b.nanoseconds := by
  have nano := nano_lt_of_ordinary ordinary
  have minutes := a.fits.minute_lt
  have seconds := a.fits.second_lt
  have day := a.secondOfDay_lt
  unfold nanoseconds
  rcases lt_iff.mp before with date | ⟨date, clock⟩
  · have days := Date.number_strictMono date
    rw [number_date, number_date] at days
    omega
  · have days := congrArg Date.number date
    rw [number_date, number_date] at days
    rw [days]
    unfold secondOfDay
    omega

theorem nanoseconds_le {a b : DateTime} (ordinary : a.isLeapSecond = false) (order : a ≤ b) :
    a.nanoseconds ≤ b.nanoseconds := by
  rcases eq_or_lt_of_le order with rfl | before
  · exact le_refl _
  · exact le_of_lt (nanoseconds_lt ordinary before)

theorem nanoseconds_injective {a b : DateTime} (ordinaryA : a.isLeapSecond = false)
    (ordinaryB : b.isLeapSecond = false) (same : a.nanoseconds = b.nanoseconds) : a = b := by
  rcases lt_trichotomy a b with before | equal | after
  · have less := nanoseconds_lt ordinaryA before
    omega
  · exact equal
  · have less := nanoseconds_lt ordinaryB after
    omega

theorem nanoseconds_nonneg_iff {t : DateTime} (ordinary : t.isLeapSecond = false) :
    0 ≤ t.nanoseconds ↔ 1 ≤ t.year := by
  have nano := nano_lt_of_ordinary ordinary
  have day := t.secondOfDay_lt
  have counted := t.date.number_nonneg_iff
  rw [number_date] at counted
  apply Iff.trans ?_ counted
  unfold nanoseconds
  omega

/-- The date/time so many nanoseconds after the beginning of year 1. The whole days are counted on
the calendar, and what is left over is the time of day. -/
def afterStart? (nanoseconds : Nat) : Option DateTime :=
  let seconds := nanoseconds / 1000000000
  let date := Date.next^[seconds / 86400] Date.first
  make? date.year date.month date.day (seconds / 3600 % 24) (seconds / 60 % 60) (seconds % 60)
    (nanoseconds % 1000000000)

/-- A date/time comes so many nanoseconds after the beginning of year 1 exactly if it is no leap
second and has that number of nanoseconds. -/
theorem afterStart?_eq_some_iff {n : Nat} {t : DateTime} :
    afterStart? n = some t ↔ t.isLeapSecond = false ∧ t.nanoseconds = n := by
  constructor
  · intro found
    unfold afterStart? make? at found
    simp only [Option.dite_none_right_eq_some, Option.some.injEq] at found
    obtain ⟨fits, rfl⟩ := found
    have days : Calendar.dayNumber _ _ _ = _ :=
      Date.number_iterate (n / 1000000000 / 86400)
    constructor
    · simp only [isLeapSecond, decide_eq_false_iff_not]
      omega
    · simp only [nanoseconds, dayNumber, secondOfDay, days]
      omega
  · rintro ⟨ordinary, counted⟩
    have nano := nano_lt_of_ordinary ordinary
    have hour := t.fits.hour_lt
    have minute := t.fits.minute_lt
    have second := t.fits.second_lt
    have day := t.secondOfDay_lt
    unfold nanoseconds at counted
    have date : Date.next^[n / 1000000000 / 86400] Date.first = t.date := by
      apply Date.iterate_number
      rw [number_date]
      omega
    have hours : n / 1000000000 / 3600 % 24 = t.hour := by
      unfold secondOfDay at counted day
      omega
    have minutes : n / 1000000000 / 60 % 60 = t.minute := by
      unfold secondOfDay at counted day
      omega
    have seconds : n / 1000000000 % 60 = t.second := by
      unfold secondOfDay at counted day
      omega
    have fraction : n % 1000000000 = t.nano := by omega
    simp only [afterStart?, date, hours, minutes, seconds, fraction]
    exact dif_pos t.fits

end DateTime
end StoreBridge
