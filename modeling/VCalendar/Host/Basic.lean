import VCalendar.Host.Error
import VCalendar.Time.ZoneName
import VCalendar.Value

/-!
# The host

Settings depend on what the platform of a run provides: a zone database, and room enough
to write the text of a value.  Any of this may fail, with failures of some type; a host
whose failures have no values never fails.
-/

namespace VCalendar

/-- What settings need of the platform. -/
structure Host (ε : Type) where
  database : ZoneName.Database ε
  /-- What interrupts the writing of a value as text, if anything does. -/
  writing : Value → Option ε
  /-- What interrupts the logging of a value, if anything does. -/
  logging : Value → Option ε

/-- The host that has a zone database and never interrupts. -/
def Host.tireless {ε : Type} (db : ZoneName.Database ε) : Host ε where
  database := db
  writing := fun _ => none
  logging := fun _ => none

/-- Why a loader gives no value. -/
inductive LoaderFailure where
  /-- The text is refused, with some words. -/
  | malformed (message : String)
  /-- The loader fails on its own account. -/
  | host (cause : HostError)
deriving DecidableEq, Repr

/-- What the command needs of the platform. -/
structure Platform where
  host : Host HostError
  /-- The loader of settings files, given a text with line feeds as line ends. -/
  load : List Char → Except LoaderFailure Value
  /-- Whether a double dash behind the equals sign of an option is its argument; on other
  platforms the option is as if it were not given. -/
  dashIsArgument : Bool

end VCalendar
