import VCalendar.Settings.Load
import VCalendar.Standard.Zones
import VCalendar.Yaml.Document

/-!
# The standard platform

The platform that the command runs on unless another one is given: the standard zone
database, and a loader of plain settings files.
-/

namespace VCalendar

/-- The failure of the loader for a text that is no document. -/
def Yaml.Error.failure : Yaml.Error → LoaderFailure
  | .numeral flaw => .host (.other "ValueError" flaw.message)
  | e => .malformed e.message

/-- The standard host never fails. -/
def Host.standard (ε : Type) : Host ε :=
  .tireless (.standard ε)

def Platform.standard : Platform where
  host := .standard HostError
  load := fun cs => (Yaml.read cs).mapError Yaml.Error.failure
  dashIsArgument := false

/-- The error of a settings file with a numeral that names no integer. -/
@[match_pattern] abbrev LoadError.numeral (flaw : HostError) : LoadError :=
  .host flaw

namespace Settings

/-- The settings of a mapping. -/
def ofMapping (m : Mapping) : Report CoercionError Settings :=
  coerce (.standard Empty) m

/-- Loads the settings of a run. -/
def load (w : Surroundings) (named : Option String) : Report LoadError Settings :=
  loadOn .standard w named

end Settings

end VCalendar
