import VCalendar.Document.Basic
import VCalendar.Error
import VCalendar.Time.Duration
import VCalendar.Time.Zones

/-!
# The event of a document

The event is summed up from the root-level properties in order: the last start,
the last recurrence rule, and the last of end and duration count.  A zone
identifier given with a start or an end stays in effect for the later ones.
-/

namespace VCalendar

namespace Summary

/-- The summary with the zone identifier of a start or an end property. -/
def takeZone (s : Summary) (n : Node) : Summary :=
  { s with tzid := (n.parameter? "TZID").or s.tzid }

/-- Reads the date of a property in the zone in effect. -/
def readDate (zones : Zones) (s : Summary) (n : Node) : Report ReadError DateReading :=
  let report := zones.readDate n.value s.tzid
  match report.outcome with
  | .ok reading => ⟨report.events, .ok reading⟩
  | .error (.unanswered cause) => ⟨report.events, .error (.lookup cause)⟩
  | .error _ =>
    ⟨report.events ++ [.badDate n.name n.value n.lineNumber],
      .error (.badDate ⟨n.lineNumber, n.name, n.value⟩)⟩

/-- The duration up to an end. -/
def durationTo (s : Summary) (finish : Instant) : Except ReadError String :=
  match s.start with
  | none => .ok zeroDuration
  | some start => (durationText start finish).mapError .badSpan

/-- Takes a root-level node into the summary. -/
def add (zones : Zones) (s : Summary) (n : Node) : Report ReadError Summary :=
  if n.name = "DTSTART" then do
    let s := s.takeZone n
    let reading ← readDate zones s n
    pure { s with
      start := some reading.instant
      dtstart := some n.value
      allDay := s.allDay || reading.dateOnly }
  else if n.name = "DTEND" then do
    let s := s.takeZone n
    let reading ← readDate zones s n
    let duration ← Report.ofExcept (s.durationTo reading.instant)
    pure { s with duration := some duration }
  else if n.name = "DURATION" then pure { s with duration := some n.value }
  else if n.name = "RRULE" then pure { s with rrule := some n.value }
  else pure s

/-- Takes nodes into the summary one after the other. -/
def addAll (zones : Zones) (s : Summary) : List Node → Report ReadError Summary
  | [] => pure s
  | n :: rest => do
    let s ← s.add zones n
    s.addAll zones rest

end Summary

end VCalendar
