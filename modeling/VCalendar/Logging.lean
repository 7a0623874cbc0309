import VCalendar.Logging.Hierarchy
import VCalendar.Text.Upper

/-!
# Logging

A record is written if its logger lets its level pass and the level reaches that
of a handler of the root.  Without a handler, warnings and worse are written bare.
-/

namespace VCalendar

/-- A handler of the root logger: one that writes from some level on, or a silent one. -/
inductive Handler where
  | stream (level : Int)
  | silent
deriving DecidableEq, Repr

/-- The level of a handler; a silent one has none set. -/
def Handler.level : Handler → Int
  | .stream level => level
  | .silent => 0

/-- The loggers and the handlers in force. -/
structure LogState where
  tree : LoggerTree := {}
  handlers : List Handler := []
deriving DecidableEq, Repr

/-- The name of a level. -/
def levelName (level : Int) : String :=
  if level = 0 then "NOTSET"
  else if level = 50 then "CRITICAL"
  else
    match Level.all.find? (·.number = level) with
    | some l => l.name
    | none => "Level " ++ toString level

/-- A record as a handler writes it at some time. -/
def Record.line (time : String) (r : Record) : String :=
  "[" ++ time ++ "] " ++ levelName r.level ++ " - " ++ r.logger ++ " - " ++ r.message

/-- The records of events, and the names remembered after them. -/
def Event.recordsAfter (recent : RecentNames) (events : List Event) : List Record × RecentNames :=
  (records recent events, events.foldl (fun recent event => (event.record? recent).2) recent)

namespace LogState

def setLevel (s : LogState) (name : String) (level : Int) : LogState :=
  { s with tree := s.tree.setLevel name level }

/-- What a record that its logger let pass makes the handlers write. -/
def handled (s : LogState) (time : String) (r : Record) : List String :=
  match s.handlers with
  | [] => if Level.warning.number ≤ r.level then [r.message] else []
  | handlers => handlers.filterMap fun
    | .stream level => if level ≤ r.level then some (r.line time) else none
    | .silent => none

/-- Logs a record: what is in force after it, and what is written. -/
def write (s : LogState) (time : String) (r : Record) : LogState × List String :=
  let (tree, passed) := s.tree.ask r.logger r.level
  ({ s with tree := tree }, if passed then s.handled time r else [])

/-- Logs records one after the other. -/
def writeAll (s : LogState) (time : String) : List Record → LogState × List String
  | [] => (s, [])
  | r :: rest =>
    let (s, lines) := s.write time r
    let (s, more) := s.writeAll time rest
    (s, lines ++ more)

/-! ## Configuration -/

/-- The libraries that are kept quiet. -/
def libraryLoggers : List String := ["icalendar", "pydantic", "yaml"]

/-- The loggers of the program whose levels are set. -/
def programLoggers : List String :=
  ["vcal_lite", Logger.reader.name, Logger.dates.name, Logger.zones.name, Logger.settings.name]

def setLevels (s : LogState) (names : List String) (level : Int) : LogState :=
  names.foldl (fun s name => s.setLevel name level) s

/-- The environment variables for debug logging and for the root level. -/
def debugVariable : String := "VCAL_LITE_DEBUG"

def levelVariable : String := "VCAL_LITE_LOG_LEVEL"

/-- Whether a text switches debug logging on; no letter outside ASCII has a letter of
these words as its lower case. -/
def isDebugWord (s : String) : Bool :=
  ["1", "true", "yes"].contains (String.ofList (s.toList.map Char.toLower))

/-- Whether debug logging is wanted: a forced choice first, then the environment, then
the given mode. -/
def wantsDebug (environment : String → Option String) (mode : Bool) (forced : Option Bool) : Bool :=
  match forced with
  | some choice => choice
  | none => ((environment debugVariable).any isDebugWord) || mode

/-- The level of the root logger: the environment names one, or it follows the mode. -/
def rootLevelFor (environment : String → Option String) (debug : Bool) : Int :=
  match Level.ofName? (Text.upper ((environment levelVariable).getD "")) with
  | some level => level.number
  | none => if debug then Level.debug.number else Level.info.number

/-- Sets up logging.  A handler is added only where there is none. -/
def configure (s : LogState) (environment : String → Option String) (mode : Bool)
    (forced : Option Bool) : LogState × List Event :=
  let debug := wantsDebug environment mode forced
  let rootLevel := rootLevelFor environment debug
  let handlers := if s.handlers.isEmpty then [.stream rootLevel] else s.handlers
  let s := { s.setLevel LoggerTree.rootName rootLevel with handlers := handlers }
  let s := s.setLevels libraryLoggers Level.warning.number
  let s := s.setLevels programLoggers (if debug then Level.debug.number else Level.info.number)
  (s, if debug then [.debugEnabled] else [])

/-- Sets the root level by name, if the name is one of a level. -/
def applyRootLevel (s : LogState) (name : String) : LogState × Bool × List Event :=
  let name := Text.upper name
  match Level.ofName? name with
  | some level => (s.setLevel LoggerTree.rootName level.number, true, [])
  | none => (s, false, [.unknownLevel name])

/-- Sets every logger to the lowest level. -/
def reset (s : LogState) : LogState × List Event :=
  let s := s.setLevel LoggerTree.rootName Level.debug.number
  let s := s.setLevels (libraryLoggers ++ programLoggers) Level.debug.number
  (s, [.loggersReset])

/-- The names of the levels set at the root, at the program and at the libraries. -/
def status (s : LogState) : List (String × String) :=
  (LoggerTree.rootName :: "vcal_lite" :: libraryLoggers).map fun name =>
    (name, levelName (s.tree.ownLevel name))

end LogState

end VCalendar
