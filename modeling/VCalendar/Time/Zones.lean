import VCalendar.Journal.Report
import VCalendar.Time.Compact
import VCalendar.Time.ZoneName

/-!
# Looking up zones

Zone identifiers are resolved by a lookup that a caller may replace.  Unknown
ones never fail: a fallback zone stands in, and a warning is noted.  Only the lookup
itself may fail.
-/

namespace VCalendar

/-- A lookup of zones by identifier, and what it notes when it is asked.  It may fail, but
not with what reading a date takes for a date that is none. -/
structure Resolver where
  find : String → Except HostError (Option Zone)
  trace : String → List Event := fun _ => []

/-- The lookup that knows no zone. -/
def Resolver.unknowing : Resolver where
  find := fun _ => .ok none

/-- The lookup by zone names in a database. -/
def ZoneName.Database.resolver (db : Database HostError) : Resolver where
  find := db.resolve
  trace := db.lookupEvents

/-- How zone identifiers become zones. -/
structure Zones where
  resolver : Resolver
  fallback : Zone

namespace Zones

/-- The zone in force for an identifier; universal time if there is none. -/
def answer (zones : Zones) : Option String → Except HostError Zone
  | none => .ok .utc
  | some tzid =>
    if tzid = "" then .ok .utc
    else (zones.resolver.find tzid).map fun zone => zone.getD zones.fallback

/-- What is noted when the zone of an identifier is looked up. -/
def zoneEvents (zones : Zones) : Option String → List Event
  | none => []
  | some tzid =>
    if tzid = "" then []
    else zones.resolver.trace tzid ++
      match zones.resolver.find tzid with
      | .ok none => [.unknownZone tzid zones.fallback.label]
      | .ok (some _) | .error _ => []

/-- What a date in the zone of an identifier means. -/
def reading (zones : Zones) (value : String) (tzid : Option String) :
    Except DateFlaw DateReading := do
  let zone ← (zones.answer tzid).mapError .unanswered
  readCompact value zone

/-- Reads a date in the zone of an identifier. -/
def readDate (zones : Zones) (value : String) (tzid : Option String) :
    Report DateFlaw DateReading := do
  Report.noteAll (zones.zoneEvents tzid)
  let reading ← Report.ofExcept (zones.reading value tzid)
  Report.note (.dateRead value tzid reading.instant.text)
  pure reading

end Zones

end VCalendar
