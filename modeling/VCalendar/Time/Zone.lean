import VCalendar.Time.Calendar

/-!
# Time zones

A zone gives the offset of each wall time from universal time, in seconds east.
A named zone has the offset that it began with, a list of transitions, and a rule
that holds after the last of them.  A wall time that a transition skips or repeats
takes the offset in force before the transition.
-/

namespace VCalendar

/-- A moment that recurs every year: a weekday (Sunday is 0) of a week of a month,
week 5 being the last, and the seconds from that midnight. -/
structure YearlyMoment where
  month : Nat
  week : Nat
  weekday : Nat
  time : Int
deriving DecidableEq, Repr

/-- The number of the day on which a yearly moment falls. -/
def YearlyMoment.dayNumber (m : YearlyMoment) (year : Nat) : Nat :=
  let first := daysBeforeYear year + daysBeforeMonth year m.month + 1
  let day := (m.weekday + 7 - first % 7) % 7 + 7 * (m.week - 1)
  first + (if day < daysInMonth year m.month then day else day - 7)

/-- The moment in a year, in seconds of the wall clock since the epoch. -/
def YearlyMoment.seconds (m : YearlyMoment) (year : Nat) : Int :=
  86400 * ((m.dayNumber year : Int) - 1) + m.time - epochSeconds

/-- The offsets that hold from some time on without end. -/
inductive TailRule where
  | constant (offset : Int)
  /-- Daylight time runs from a yearly moment of standard time to one of daylight time. -/
  | seasonal (standard daylight : Int) (start finish : YearlyMoment)
deriving DecidableEq, Repr

/-- The offset at a wall time of a year, in seconds since the epoch. -/
def TailRule.offset (rule : TailRule) (year : Nat) (seconds : Int) : Int :=
  match rule with
  | .constant offset => offset
  | .seasonal standard daylight start finish =>
    let first := start.seconds year + (daylight - standard)
    let last := finish.seconds year
    let inDaylight :=
      if first < last then first ≤ seconds ∧ seconds < last
      else ¬(last ≤ seconds ∧ seconds < first)
    if inDaylight then daylight else standard

/-- A change of the offset at an instant, in seconds since the epoch. -/
structure Transition where
  instant : Int
  offset : Int
deriving DecidableEq, Repr

/-- The wall time from which a transition is in effect, given the offset before it. -/
def Transition.wallSeconds (t : Transition) (before : Int) : Int :=
  t.instant + max before t.offset

/-- The offsets of a named zone; the initial one holds before the first transition. -/
structure ZoneRules where
  initial : Int
  transitions : List Transition
  tail : TailRule
deriving DecidableEq, Repr

namespace ZoneRules

/-- The rules of a zone that keeps one offset. -/
def constant (offset : Int) : ZoneRules :=
  ⟨offset, [], .constant offset⟩

/-- The offset at a wall time, from an offset and the transitions still ahead. -/
def offsetAmong (tail : TailRule) (year : Nat) (seconds before : Int) : List Transition → Int
  | [] => tail.offset year seconds
  | [t] =>
    if seconds < t.wallSeconds before then before
    else if seconds = t.wallSeconds before then t.offset
    else tail.offset year seconds
  | t :: rest =>
    if seconds < t.wallSeconds before then before
    else offsetAmong tail year seconds t.offset rest

def offset (r : ZoneRules) (w : WallTime) : Int :=
  offsetAmong r.tail w.date.year (w.seconds - epochSeconds) r.initial r.transitions

end ZoneRules

inductive Zone where
  | fixed (offset : Int)
  | named (name : String) (rules : ZoneRules)
deriving DecidableEq, Repr

/-- At least two decimal digits. -/
def twoDigits (n : Nat) : String :=
  if n < 10 then "0" ++ toString n else toString n

/-- An offset as sign, hours and minutes, and seconds if there are any. -/
def offsetText (offset : Int) : String :=
  let n := offset.natAbs
  (if offset < 0 then "-" else "+") ++ twoDigits (n / 3600) ++ ":" ++ twoDigits (n / 60 % 60) ++
    if n % 60 = 0 then "" else ":" ++ twoDigits (n % 60)

namespace Zone

def utc : Zone := .fixed 0

/-- Seconds east of universal time at a wall time. -/
def offset (z : Zone) (w : WallTime) : Int :=
  match z with
  | .fixed offset => offset
  | .named _ rules => rules.offset w

/-- The name of the zone, or its offset. -/
def label : Zone → String
  | .fixed offset => if offset = 0 then "UTC" else "UTC" ++ offsetText offset
  | .named name _ => name

end Zone

/-- A wall time in a zone. -/
structure Instant where
  wall : WallTime
  zone : Zone
deriving DecidableEq, Repr

namespace Instant

def offset (i : Instant) : Int :=
  i.zone.offset i.wall

/-- The seconds of universal time since the beginning of year 1, without the fraction. -/
def utcSeconds (i : Instant) : Int :=
  i.wall.seconds - i.offset

/-- Whether the instant lies in the calendar when expressed in universal time. -/
def InCalendar (i : Instant) : Prop :=
  0 ≤ i.utcSeconds ∧ i.utcSeconds < calendarSeconds

instance (i : Instant) : Decidable i.InCalendar := by
  unfold InCalendar
  infer_instance

/-- The microseconds of universal time since the beginning of year 1. -/
def utcMicroseconds (i : Instant) : Int :=
  1000000 * i.utcSeconds + i.wall.time.microsecond

def padded (width n : Nat) : String :=
  let s := toString n
  String.ofList (List.replicate (width - s.length) '0') ++ s

/-- Date, time and offset. -/
def text (i : Instant) : String :=
  let d := i.wall.date
  let t := i.wall.time
  padded 4 d.year ++ "-" ++ twoDigits d.month ++ "-" ++ twoDigits d.day ++ "T" ++
    twoDigits t.hour ++ ":" ++ twoDigits t.minute ++ ":" ++ twoDigits t.second ++
    (if t.microsecond = 0 then "" else "." ++ padded 6 t.microsecond) ++ offsetText i.offset

end Instant

end VCalendar
