/-!
# Failures of the host

What lies outside of a run may fail on its own account: the zone database, the loader of
settings files, or the writing of a value that is nested too deeply.  Such a failure is
no error of the program and keeps its own words.
-/

namespace VCalendar

/-- A failure that comes from outside. -/
inductive HostError where
  /-- The operating system refuses something. -/
  | system (text : String)
  /-- Another failure, by its kind. -/
  | other (kind text : String)
deriving DecidableEq, Repr

def HostError.message : HostError → String
  | .system text | .other _ text => text

end VCalendar
