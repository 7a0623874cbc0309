/-!
# The Gregorian calendar

Dates of the years 1 to 9999 and times of day.  Days are numbered from the first
day of year 1, which is day 1.
-/

namespace VCalendar

def isLeapYear (year : Nat) : Bool :=
  year % 4 = 0 && (year % 100 ≠ 0 || year % 400 = 0)

def daysInMonth (year month : Nat) : Nat :=
  if month = 2 then if isLeapYear year then 29 else 28
  else if month = 4 ∨ month = 6 ∨ month = 9 ∨ month = 11 then 30
  else 31

/-- The days of a year that lie before a month. -/
def daysBeforeMonth (year : Nat) : Nat → Nat
  | 0 => 0
  | 1 => 0
  | month + 2 => daysBeforeMonth year (month + 1) + daysInMonth year (month + 1)

/-- The days that lie before a year. -/
def daysBeforeYear (year : Nat) : Nat :=
  365 * (year - 1) + (year - 1) / 4 - (year - 1) / 100 + (year - 1) / 400

def ValidDate (year month day : Nat) : Prop :=
  1 ≤ year ∧ year ≤ 9999 ∧ 1 ≤ month ∧ month ≤ 12 ∧ 1 ≤ day ∧ day ≤ daysInMonth year month

instance (year month day : Nat) : Decidable (ValidDate year month day) := by
  unfold ValidDate
  infer_instance

/-- A day of the calendar. -/
structure Date where
  year : Nat
  month : Nat
  day : Nat
  valid : ValidDate year month day
deriving DecidableEq, Repr

namespace Date

def ofNumbers? (year month day : Nat) : Option Date :=
  if h : ValidDate year month day then some ⟨year, month, day, h⟩ else none

/-- The number of the day; the first day of year 1 has number 1. -/
def dayNumber (d : Date) : Nat :=
  daysBeforeYear d.year + daysBeforeMonth d.year d.month + d.day

end Date

def ValidTime (hour minute second microsecond : Nat) : Prop :=
  hour < 24 ∧ minute < 60 ∧ second < 60 ∧ microsecond < 1000000

instance (hour minute second microsecond : Nat) :
    Decidable (ValidTime hour minute second microsecond) := by
  unfold ValidTime
  infer_instance

/-- A time of day. -/
structure TimeOfDay where
  hour : Nat
  minute : Nat
  second : Nat
  microsecond : Nat
  valid : ValidTime hour minute second microsecond
deriving DecidableEq, Repr

namespace TimeOfDay

def ofNumbers? (hour minute second microsecond : Nat) : Option TimeOfDay :=
  if h : ValidTime hour minute second microsecond then some ⟨hour, minute, second, microsecond, h⟩
  else none

def midnight : TimeOfDay :=
  ⟨0, 0, 0, 0, by decide⟩

/-- The seconds since midnight, without the fraction. -/
def secondOfDay (t : TimeOfDay) : Nat :=
  3600 * t.hour + 60 * t.minute + t.second

end TimeOfDay

/-- A date and a time of day, as a clock on the wall shows them. -/
structure WallTime where
  date : Date
  time : TimeOfDay
deriving DecidableEq, Repr

namespace WallTime

/-- The seconds since the beginning of year 1, without the fraction. -/
def seconds (w : WallTime) : Nat :=
  86400 * (w.date.dayNumber - 1) + w.time.secondOfDay

end WallTime

/-- The seconds of the calendar: those of the years 1 to 9999. -/
def calendarSeconds : Nat := 86400 * daysBeforeYear 10000

/-- The seconds from the beginning of year 1 to the beginning of 1970. -/
def epochSeconds : Nat := 86400 * daysBeforeYear 1970

example : epochSeconds = 62135596800 := by decide

end VCalendar
