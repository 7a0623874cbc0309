import VCalendar.Host.Error
import VCalendar.Text.Digit
import VCalendar.Text.Quoted
import VCalendar.Time.Zone

/-!
# Compact dates

A compact date is eight digits, a compact date-time adds a `T` and six digits,
and a `Z` behind them means universal time.  A date stands for its midnight.
The shape admits the digits of every script and one line feed at the very end;
of the dates only those in ASCII digits without a line feed are read.
-/

namespace VCalendar

open VCalendar.Text

/-- Why a text is not read as a compact date. -/
inductive DateFlaw where
  | unrecognized (value : String)
  | wrongDate (value : String)
  | wrongDateTime (value : String)
  /-- The lookup of its zone fails. -/
  | unanswered (cause : HostError)
deriving DecidableEq, Repr

def DateFlaw.message : DateFlaw → String
  | .unrecognized value => "Unrecognized date-time format: " ++ quote value
  | .wrongDate value => "Wrong date format " ++ value
  | .wrongDateTime value => "Wrong datetime format: " ++ value
  | .unanswered cause => cause.message

/-- An instant, and whether it was given as a date alone. -/
structure DateReading where
  instant : Instant
  dateOnly : Bool
deriving DecidableEq, Repr

namespace CompactDate

/-- The text without one line feed at its end. -/
def dropFinalLineFeed (cs : List Char) : List Char :=
  if cs.getLast? = some '\n' then cs.dropLast else cs

def isDateShape (cs : List Char) : Bool :=
  cs.length = 8 && cs.all isDecimalDigit

def isDateTimeShape (cs : List Char) : Bool :=
  (cs.length = 15 || cs.length = 16 && cs.getLast? = some 'Z') &&
    (cs.take 8).all isDecimalDigit && cs[8]? = some 'T' && ((cs.take 15).drop 9).all isDecimalDigit

/-- The number that a run of digits spells. -/
def number (cs : List Char) : Nat :=
  ofDigits (cs.filterMap digitValue?)

/-- The date that eight digits name. -/
def date? (cs : List Char) : Option Date :=
  Date.ofNumbers? (number (cs.take 4)) (number ((cs.drop 4).take 2)) (number ((cs.drop 6).take 2))

/-- The time that six digits name. -/
def time? (cs : List Char) : Option TimeOfDay :=
  TimeOfDay.ofNumbers? (number (cs.take 2)) (number ((cs.drop 2).take 2))
    (number ((cs.drop 4).take 2)) 0

/-- The midnight of a date given alone. -/
def midnight? (cs : List Char) : Option WallTime :=
  if cs.length = 8 ∧ cs.all Char.isDigit then (date? cs).map (⟨·, .midnight⟩) else none

/-- The wall time of a date-time, without the mark of universal time. -/
def wallTime? (cs : List Char) : Option WallTime := do
  let date ← date? cs
  let time ← time? (cs.drop 9)
  pure ⟨date, time⟩

end CompactDate

open CompactDate in
/-- Reads a compact date or date-time in a zone. -/
def readCompact (value : String) (zone : Zone) : Except DateFlaw DateReading :=
  let cs := value.toList
  let body := dropFinalLineFeed cs
  if isDateShape body then
    match midnight? cs with
    | some wall => .ok ⟨⟨wall, zone⟩, true⟩
    | none => .error (.wrongDate value)
  else if isDateTimeShape body then
    match wallTime? (cs.take 15) with
    | some wall => .ok ⟨⟨wall, if cs.getLast? = some 'Z' then .utc else zone⟩, false⟩
    | none => .error (.wrongDateTime (String.ofList (cs.take 15)))
  else .error (.unrecognized value)

end VCalendar
