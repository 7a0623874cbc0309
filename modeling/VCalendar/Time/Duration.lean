import VCalendar.Error
import VCalendar.Number.Binary64
import VCalendar.Time.Zone

/-!
# Spans of time

The span between two instants is written as a count of seconds.  The
microseconds between them are turned into seconds of the 64-bit binary format
and cut toward zero, so a count of whole seconds is exact.
-/

namespace VCalendar

open VCalendar.Number

/-- The whole seconds of a signed number of microseconds. -/
def wholeSeconds (microseconds : Int) : Int :=
  ((Binary64.ofRatio (microseconds < 0) microseconds.natAbs 1000000).truncate?).getD 0

/-- The text of a span of seconds. -/
def secondsText (seconds : Int) : String :=
  "+P" ++ toString seconds ++ "S"

/-- The span from one instant to another, both expressed in universal time. -/
def durationText (start finish : Instant) : Except SpanError String :=
  if start.InCalendar ∧ finish.InCalendar then
    .ok (secondsText (wholeSeconds (finish.utcMicroseconds - start.utcMicroseconds)))
  else .error .outOfCalendar

/-- The duration of an event that ends without having started. -/
def zeroDuration : String := "+P0S"

end VCalendar
