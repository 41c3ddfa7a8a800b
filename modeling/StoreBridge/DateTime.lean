/-! Date/times of the proleptic Gregorian calendar, to the nanosecond, without a time zone. A leap
second belongs to second 59 and has a fraction of a second or more; it counts like the instant that
it is written as. -/
namespace StoreBridge

namespace Calendar

/-- Every fourth year is a leap year, except three centuries out of four. -/
def isLeapYear (year : Int) : Bool :=
  year % 4 = 0 && (year % 100 ≠ 0 || year % 400 = 0)

/-- The number of days of a month. -/
def daysInMonth (year : Int) : Nat → Nat
  | 2 => if isLeapYear year then 29 else 28
  | 4 | 6 | 9 | 11 => 30
  | _ => 31

/-- The number of days of a year before a month. -/
def daysBeforeMonth (year : Int) : Nat → Nat
  | 0 => 0
  | 1 => 0
  | m + 1 => daysBeforeMonth year m + daysInMonth year m

/-- The number of days before a year, from year 1 on. -/
def daysBeforeYear (year : Int) : Int :=
  let y := year - 1
  365 * y + y / 4 - y / 100 + y / 400

/-- The number of days from the first of January of year 1 to a date. -/
def dayNumber (year : Int) (month day : Nat) : Int :=
  daysBeforeYear year + daysBeforeMonth year month + day - 1

end Calendar

/-- The fields are those of a date/time: a date of the calendar in a year of the range, a time of
day, and a fraction that reaches a second only in a leap second. -/
structure DateTime.Fits (year : Int) (month day hour minute second nano : Nat) : Prop where
  year_range : -262143 ≤ year ∧ year ≤ 262142
  month_range : 1 ≤ month ∧ month ≤ 12
  day_range : 1 ≤ day ∧ day ≤ Calendar.daysInMonth year month
  hour_lt : hour < 24
  minute_lt : minute < 60
  second_lt : second < 60
  nano_lt : nano < 2000000000
  leap : 1000000000 ≤ nano → second = 59

instance (year : Int) (month day hour minute second nano : Nat) :
    Decidable (DateTime.Fits year month day hour minute second nano) :=
  decidable_of_iff
    ((-262143 ≤ year ∧ year ≤ 262142) ∧ (1 ≤ month ∧ month ≤ 12) ∧
      (1 ≤ day ∧ day ≤ Calendar.daysInMonth year month) ∧ hour < 24 ∧ minute < 60 ∧ second < 60 ∧
      nano < 2000000000 ∧ (1000000000 ≤ nano → second = 59))
    ⟨fun ⟨a, b, c, d, e, f, g, h⟩ => ⟨a, b, c, d, e, f, g, h⟩,
      fun ⟨a, b, c, d, e, f, g, h⟩ => ⟨a, b, c, d, e, f, g, h⟩⟩

/-- A date/time. -/
structure DateTime where
  year : Int
  month : Nat
  day : Nat
  hour : Nat
  minute : Nat
  second : Nat
  nano : Nat
  fits : DateTime.Fits year month day hour minute second nano
deriving DecidableEq

namespace DateTime

/-- The date/time with these fields, if they are those of one. -/
def make? (year : Int) (month day hour minute second nano : Nat) : Option DateTime :=
  if h : Fits year month day hour minute second nano then
    some ⟨year, month, day, hour, minute, second, nano, h⟩
  else none

/-- The instant is inserted at the end of a minute. -/
def isLeapSecond (t : DateTime) : Bool :=
  decide (1000000000 ≤ t.nano)

/-- The second as it is written: 60 for a leap second. -/
def shownSecond (t : DateTime) : Nat :=
  t.second + t.nano / 1000000000

/-- The fraction of the second as it is written, in nanoseconds. -/
def shownNano (t : DateTime) : Nat :=
  t.nano % 1000000000

/-- The number of days from the first of January of year 1. -/
def dayNumber (t : DateTime) : Int :=
  Calendar.dayNumber t.year t.month t.day

/-- The number of seconds of the day before the second. -/
def secondOfDay (t : DateTime) : Nat :=
  3600 * t.hour + 60 * t.minute + t.second

/-- The exact number of nanoseconds from the beginning of year 1, negative before it. -/
def nanoseconds (t : DateTime) : Int :=
  (86400 * t.dayNumber + t.secondOfDay) * 1000000000 + t.nano

end DateTime
end StoreBridge
