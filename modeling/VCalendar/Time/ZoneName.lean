import VCalendar.Journal.Report
import VCalendar.Text.Blank
import VCalendar.Time.Zone

/-!
# Names of time zones

Zones are named in many ways: by the identifiers of the zone database, by the
names that office programs write, and by obsolete or shorthand names.  Every
name is brought to an identifier of the database, or to the name of universal
time.
-/

namespace VCalendar.ZoneName

/-- The names that office programs write, and the identifiers they stand for. -/
def officeNames : List (String × String) :=
  [("Pacific Standard Time", "America/Los_Angeles"),
    ("Mountain Standard Time", "America/Denver"),
    ("US Mountain Standard Time", "America/Phoenix"),
    ("Central Standard Time", "America/Chicago"),
    ("Eastern Standard Time", "America/New_York"),
    ("Alaskan Standard Time", "America/Anchorage"),
    ("Hawaiian Standard Time", "Pacific/Honolulu"),
    ("Atlantic Standard Time", "America/Halifax"),
    ("Newfoundland Standard Time", "America/St_Johns"),
    ("SA Pacific Standard Time", "America/Bogota"),
    ("Argentina Standard Time", "America/Buenos_Aires"),
    ("E. South America Standard Time", "America/Sao_Paulo"),
    ("GMT Standard Time", "Europe/London"),
    ("W. Europe Standard Time", "Europe/Berlin"),
    ("Romance Standard Time", "Europe/Paris"),
    ("Central Europe Standard Time", "Europe/Budapest"),
    ("E. Europe Standard Time", "Europe/Bucharest"),
    ("FLE Standard Time", "Europe/Helsinki"),
    ("GTB Standard Time", "Europe/Athens"),
    ("Russian Standard Time", "Europe/Moscow"),
    ("South Africa Standard Time", "Africa/Johannesburg"),
    ("Egypt Standard Time", "Africa/Cairo"),
    ("India Standard Time", "Asia/Kolkata"),
    ("China Standard Time", "Asia/Shanghai"),
    ("Tokyo Standard Time", "Asia/Tokyo"),
    ("Korea Standard Time", "Asia/Seoul"),
    ("Singapore Standard Time", "Asia/Singapore"),
    ("Arabian Standard Time", "Asia/Dubai"),
    ("Israel Standard Time", "Asia/Jerusalem"),
    ("AUS Eastern Standard Time", "Australia/Sydney"),
    ("W. Australia Standard Time", "Australia/Perth"),
    ("New Zealand Standard Time", "Pacific/Auckland")]

/-- Obsolete and shorthand names, and the identifiers they stand for. -/
def aliases : List (String × String) :=
  [("US/Pacific", "America/Los_Angeles"),
    ("US/Mountain", "America/Denver"),
    ("US/Central", "America/Chicago"),
    ("US/Eastern", "America/New_York"),
    ("US/Alaska", "America/Anchorage"),
    ("US/Hawaii", "Pacific/Honolulu"),
    ("US/Arizona", "America/Phoenix"),
    ("GMT", "UTC"),
    ("Z", "UTC"),
    ("Zulu", "UTC"),
    ("Universal", "UTC"),
    ("Etc/UTC", "UTC"),
    ("Etc/GMT", "UTC"),
    ("PST8PDT", "America/Los_Angeles"),
    ("MST7MDT", "America/Denver"),
    ("CST6CDT", "America/Chicago"),
    ("EST5EDT", "America/New_York"),
    ("Asia/Calcutta", "Asia/Kolkata"),
    ("Asia/Rangoon", "Asia/Yangon"),
    ("America/Godthab", "America/Nuuk")]

/-- What a name stands for in a table, or the name itself. -/
def substitute (table : List (String × String)) (name : String) : String :=
  (table.lookup name).getD name

/-- The identifier that a name stands for: blanks around it do not count, and an
office name may stand for an alias. -/
def candidate (name : String) : String :=
  substitute aliases (substitute officeNames (Text.strip name))

/-- A zone database: the rules of the zones that it knows, none of which has the empty
name.  A name that it refuses is that of no zone; beyond that it may fail to answer. -/
structure Database (ε : Type) where
  load : String → Except ε (Option ZoneRules)
  unnamed : load "" = .ok none

namespace Database

variable {ε : Type} (db : Database ε)

/-- The identifier of a zone name, if the zone is known.  Universal time is not asked for. -/
def normalize (name : String) : Except ε (Option String) :=
  if name = "" then .ok none
  else
    let c := candidate name
    if c = "UTC" then .ok (some c) else (db.load c).map fun rules => rules.map fun _ => c

/-- The zone that a name stands for, if it is known. -/
def resolve (name : String) : Except ε (Option Zone) := do
  match ← db.normalize name with
  | none => pure none
  | some identifier =>
    if identifier = "UTC" then pure (some .utc)
    else
      let rules ← db.load identifier
      pure (rules.map (.named identifier))

/-- What is noted when a name is looked up: the question to the zone database, unless
it fails to answer. -/
def lookupEvents (name : String) : List Event :=
  let c := candidate name
  if name = "" ∨ c = "UTC" then []
  else
    match db.load c with
    | .ok rules => [.zoneLookup c rules.isSome]
    | .error _ => []

/-- The zone of a configured fallback name; universal time if it is unknown. -/
def fallback (name : String) : Report ε Zone := do
  Report.noteAll (db.lookupEvents name)
  match ← Report.ofExcept (db.resolve name) with
  | some zone => pure zone
  | none => do
    Report.note (.invalidFallback name)
    pure .utc

end Database

end VCalendar.ZoneName
