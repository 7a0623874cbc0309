import VCalendar.Text.Quoted
import VCalendar.Value

/-!
# Settings

What a run can be told: how large a text may be, whether unbalanced blocks are
errors, the time zone that stands in for unknown ones, and a log level.
-/

namespace VCalendar

/-- The content limit in bytes where none is set. -/
def defaultContentBytes : Int := 10485760

/-- The smallest content limit that a mapping can set. -/
def minContentBytes : Int := 1024

/-- The settings of a run.  The values are as given: limits on them hold for
settings that were coerced from a mapping. -/
structure Settings where
  maxContentBytes : Int := defaultContentBytes
  strictBlocks : Bool := false
  fallbackTimezone : String := "UTC"
  logLevel : String := "INFO"
deriving DecidableEq, Repr

/-- The settings on one line. -/
def Settings.summaryText (s : Settings) : String :=
  "VCalConfig(max_content_bytes=" ++ toString s.maxContentBytes ++
    ", strict_blocks=" ++ Value.boolText s.strictBlocks ++
    ", fallback_timezone=" ++ Text.quote s.fallbackTimezone ++
    ", log_level=" ++ Text.quote s.logLevel ++ ")"

end VCalendar
