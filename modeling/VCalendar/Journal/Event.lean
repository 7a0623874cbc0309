import VCalendar.Settings.Basic

/-!
# Events

What happens during a run is noted as events.  An event has a level, the logger
it belongs to and a message; a zone lookup becomes a message only if the name is
unknown and was not asked for lately.
-/

namespace VCalendar

/-- How serious an event is. -/
inductive Level where
  | debug
  | info
  | warning
  | error
deriving DecidableEq, Repr

namespace Level

def number : Level → Int
  | .debug => 10
  | .info => 20
  | .warning => 30
  | .error => 40

/-- The four levels that a configuration can name. -/
def all : List Level := [.debug, .info, .warning, .error]

def name : Level → String
  | .debug => "DEBUG"
  | .info => "INFO"
  | .warning => "WARNING"
  | .error => "ERROR"

def ofName? (s : String) : Option Level :=
  all.find? (·.name = s)

end Level

/-! ## Loggers -/

/-- The parts of the program that log. -/
inductive Logger where
  | root
  | reader
  | dates
  | zones
  | settings
  | logging
  | command
deriving DecidableEq, Repr

/-- The dotted name of a logger in the logger hierarchy. -/
def Logger.name : Logger → String
  | .root => "root"
  | .reader => "vcal_lite.parser.vcal_parser"
  | .dates => "vcal_lite.parser.vcal_datetime"
  | .zones => "vcal_lite.core.timezone_utils"
  | .settings => "vcal_lite.config_loader"
  | .logging => "vcal_lite.lite_logging"
  | .command => "vcal_lite.__main__"

/-! ## Events -/

/-- A block that has been opened: its value and the line of its opening. -/
structure OpenLine where
  name : String
  line : Nat
deriving DecidableEq, Repr

/-- Open blocks, innermost first, as a message lists them. -/
def OpenLine.listText (blocks : List OpenLine) : String :=
  ", ".intercalate (blocks.map fun b => b.name ++ " (line " ++ toString b.line ++ ")")

/-- The fields of a document that its closing message shows. -/
structure Digest where
  nodes : Nat
  roots : Nat
  dtstart : Option String
  tzid : Option String
  duration : Option String
  rrule : Option String
  allDay : Bool
deriving DecidableEq, Repr

def Digest.text (d : Digest) : String :=
  "Parsed " ++ toString d.nodes ++ " nodes (" ++ toString d.roots ++ " at root): dtstart=" ++
    Text.quote? d.dtstart ++ " tzid=" ++ Text.quote? d.tzid ++
    " duration=" ++ Text.quote? d.duration ++ " rrule=" ++ Text.quote? d.rrule ++
    " all_day=" ++ Value.boolText d.allDay

inductive Event where
  /-- A text is over the size limit. -/
  | contentTooLarge (size : Nat) (limit : Int)
  /-- Reading begins, on so many logical lines. -/
  | reading (lines : Nat)
  /-- An END line with nothing to close is passed over. -/
  | strayEnd (name : String) (line : Nat)
  /-- The text ended with blocks open, innermost first. -/
  | stillOpen (blocks : List OpenLine)
  /-- A root-level date cannot be read. -/
  | badDate (name value : String) (line : Int)
  /-- A document is complete. -/
  | documentRead (digest : Digest)
  /-- A time zone is unknown and another one stands in. -/
  | unknownZone (tzid substitute : String)
  /-- A date was read as an instant. -/
  | dateRead (value : String) (tzid : Option String) (instant : String)
  /-- The zone database was asked for a name. -/
  | zoneLookup (name : String) (known : Bool)
  /-- The name of the fallback zone is unknown. -/
  | invalidFallback (name : String)
  /-- The content limit is not an integer. -/
  | limitNotInt (raw : Value)
  /-- The content limit is too small. -/
  | limitBelowMinimum (limit : Int)
  /-- The configured fallback zone is unknown. -/
  | fallbackUnknown (name : String)
  /-- A settings file is looked for. -/
  | settingsSought (path : String)
  /-- A settings file holds something other than a mapping. -/
  | settingsNotMapping (path : String) (raw : Value)
  | settingsLoaded (path : String)
  | settingsAbsent (path : String)
  /-- A setting is taken from the environment. -/
  | settingOverridden (key envName : String)
  /-- The settings in effect. -/
  | settingsResult (settings : Settings)
  /-- Debug logging has been switched on. -/
  | debugEnabled
  /-- All loggers have been set to the lowest level. -/
  | loggersReset
  /-- A level name is not one of the four. -/
  | unknownLevel (name : String)
  /-- The command has read its input. -/
  | inputRead (path : String) (nodes : Nat)

namespace Event

def level : Event → Level
  | .contentTooLarge .. => .error
  | .strayEnd .. | .stillOpen .. | .badDate .. | .unknownZone .. | .invalidFallback ..
  | .limitNotInt .. | .limitBelowMinimum .. | .fallbackUnknown .. | .settingsNotMapping ..
  | .unknownLevel .. => .warning
  | .settingsLoaded .. | .settingsAbsent .. | .loggersReset => .info
  | .reading .. | .documentRead .. | .dateRead .. | .zoneLookup .. | .settingsSought ..
  | .settingOverridden .. | .settingsResult .. | .debugEnabled | .inputRead .. => .debug

def logger : Event → Logger
  | .contentTooLarge .. | .reading .. | .strayEnd .. | .stillOpen .. | .badDate ..
  | .documentRead .. => .reader
  | .unknownZone .. | .dateRead .. => .dates
  | .zoneLookup .. | .invalidFallback .. => .zones
  | .limitNotInt .. | .limitBelowMinimum .. | .fallbackUnknown .. | .settingsSought ..
  | .settingsNotMapping .. | .settingsLoaded .. | .settingsAbsent .. | .settingOverridden ..
  | .settingsResult .. => .settings
  | .debugEnabled | .loggersReset => .root
  | .unknownLevel .. => .logging
  | .inputRead .. => .command

def message : Event → String
  | .contentTooLarge size limit =>
    "VCAL content too large: " ++ toString size ++ " bytes exceeds " ++ toString limit ++ " limit"
  | .reading lines => "Parsing VCAL content: " ++ toString lines ++ " logical lines"
  | .strayEnd name line =>
    "Ignoring END:" ++ name ++ " on line " ++ toString line ++ " with no open block"
  | .stillOpen blocks => "Blocks still open at end of input: " ++ OpenLine.listText blocks
  | .badDate name value line =>
    "Unable to parse " ++ name ++ "=" ++ Text.quote value ++ " on line " ++ toString line
  | .documentRead digest => digest.text
  | .unknownZone tzid substitute =>
    "Unknown timezone " ++ Text.quote tzid ++ ", assuming " ++ substitute
  | .dateRead value tzid instant =>
    "Parsed " ++ Text.quote value ++ " (tzid=" ++ Text.quote? tzid ++ ") -> " ++ instant
  | .zoneLookup name _ => "zoneinfo has no zone named " ++ Text.quote name
  | .invalidFallback name => "Invalid fallback timezone " ++ Text.quote name ++ ", using UTC"
  | .limitNotInt raw =>
    "Config max_content_bytes=" ++ raw.literal ++ " is not an int; using default " ++
      toString defaultContentBytes
  | .limitBelowMinimum limit =>
    "max_content_bytes " ++ toString limit ++ " below minimum; coercing to " ++
      toString minContentBytes
  | .fallbackUnknown name =>
    "Config fallback_timezone " ++ Text.quote name ++ " is unknown; using UTC"
  | .settingsSought path => "Attempting to load config from " ++ path
  | .settingsNotMapping path raw =>
    "Config file " ++ path ++ " parsed but top-level is not a mapping: " ++ raw.literal
  | .settingsLoaded path => "Loaded configuration from " ++ path
  | .settingsAbsent path => "Config file " ++ path ++ " not found; using defaults"
  | .settingOverridden key envName => "Config " ++ key ++ " overridden by " ++ envName
  | .settingsResult settings => "Configuration values: " ++ settings.summaryText
  | .debugEnabled => "Debug logging enabled for vcal_lite modules"
  | .loggersReset => "All loggers reset to DEBUG level for troubleshooting"
  | .unknownLevel name => "Ignoring unknown log level " ++ Text.quote name
  | .inputRead path nodes => "Parsed " ++ path ++ ": " ++ toString nodes ++ " nodes"

end Event

/-! ## Records -/

/-- A line of the log. -/
structure Record where
  level : Int
  logger : String
  message : String
deriving DecidableEq, Repr

/-- The names most recently asked of the zone database, latest first. -/
abbrev RecentNames := List String

/-- How many names are remembered. -/
def RecentNames.capacity : Nat := 128

/-- Marks a name as asked for just now. -/
def RecentNames.touch (recent : RecentNames) (name : String) : RecentNames :=
  (name :: recent.filter (· ≠ name)).take capacity

/-- The record of an event, if it has one, and the names remembered after it. -/
def Event.record? (recent : RecentNames) : Event → Option Record × RecentNames
  | event@(.zoneLookup name known) =>
    let silent := known || recent.contains name
    (if silent then none else some ⟨event.level.number, event.logger.name, event.message⟩,
      recent.touch name)
  | event => (some ⟨event.level.number, event.logger.name, event.message⟩, recent)

/-- The log of a sequence of events. -/
def Event.records (recent : RecentNames) : List Event → List Record
  | [] => []
  | event :: rest =>
    let (record?, recent) := event.record? recent
    record?.toList ++ records recent rest

end VCalendar
