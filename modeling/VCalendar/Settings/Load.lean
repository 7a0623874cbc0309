import VCalendar.Files
import VCalendar.Settings.Coerce
import VCalendar.Text.LineEnd
import VCalendar.Text.Utf8

/-!
# Settings from a file

The settings file is named by the caller, else by an environment variable, else
it has its usual name in the directory of the run.  Without a file the defaults
hold.  Environment variables override single settings of the file.
-/

namespace VCalendar

/-- Why settings cannot be loaded. -/
inductive LoadError where
  | unreadable (path : String) (cause : FileError)
  | notUtf8
  /-- The loader refuses the text, with some words. -/
  | malformed (message : String)
  | notMapping (path : String)
  | coercion (cause : CoercionError)
  /-- The host or its loader fails. -/
  | host (cause : HostError)
deriving DecidableEq, Repr

namespace LoadError

/-- The error of a mapping that gives no settings. -/
def ofCoercion : CoercionError HostError → LoadError
  | .infiniteLimit => .coercion .infiniteLimit
  | .tooManyDigits => .coercion .tooManyDigits
  | .host cause => .host cause

/-- The error of a loader that gives no value. -/
def ofLoader : LoaderFailure → LoadError
  | .malformed message => .malformed message
  | .host cause => .host cause

def message : LoadError → String
  | .unreadable path cause => cause.message path
  | .notUtf8 => "invalid start byte"
  | .malformed message => message
  | .notMapping path => "Config file " ++ path ++ " must contain a mapping at top level"
  | .coercion cause => cause.message
  | .host cause => cause.message

end LoadError

namespace Settings

/-- The environment variable that names the settings file. -/
def pathVariable : String := "VCAL_LITE_CONFIG"

/-- The usual name of the settings file. -/
def usualName : String := "vcal_lite.yaml"

/-- The environment variables that override settings, in the order of their effect. -/
def overrides : List (String × String) :=
  [("VCAL_LITE_MAX_CONTENT_BYTES", limitKey), ("VCAL_LITE_STRICT_BLOCKS", strictKey),
    ("VCAL_LITE_FALLBACK_TIMEZONE", fallbackKey), ("VCAL_LITE_LOG_LEVEL", levelKey)]

/-- A file that may hold settings: how to reach it and how it is shown. -/
structure Source where
  path : String
  shown : String
deriving DecidableEq, Repr

/-- The value of a variable that is set to something. -/
def nonempty? (s : Option String) : Option String :=
  s.filter (· ≠ "")

/-- Where settings are looked for, given the path that a caller may have named. -/
def source (w : Surroundings) (named : Option String) : Source :=
  match (nonempty? named).or (nonempty? (w.environment pathVariable)) with
  | some path => ⟨path, Path.normalize path⟩
  | none => ⟨usualName, Path.join w.directory usualName⟩

/-- The value in the bytes of a settings file. -/
def readValue (p : Platform) (bytes : ByteArray) : Report LoadError Value :=
  match Text.Utf8.decode? bytes.data.toList with
  | none => Report.fail .notUtf8
  | some cs => Report.ofExcept ((p.load (Text.normalizeEnds cs)).mapError .ofLoader)

/-- The mapping that a value is; nothing is an empty one. -/
def mappingOf (p : Platform) (shown : String) : Value → Report LoadError Mapping
  | .null => pure []
  | .map m => pure m
  | raw =>
    match p.host.logging raw with
    | some cause => Report.fail (.host cause)
    | none => do
      Report.note (.settingsNotMapping shown raw)
      Report.fail (.notMapping shown)

/-- The mapping in a settings file; a file that is not there counts as empty. -/
def readSource (p : Platform) (w : Surroundings) (s : Source) : Report LoadError Mapping :=
  match w.read s.path with
  | .ok bytes => do
    let raw ← readValue p bytes
    let m ← mappingOf p s.shown raw
    Report.note (.settingsLoaded s.shown)
    pure m
  | .error e =>
    if e.meansAbsent then do
      Report.note (.settingsAbsent s.shown)
      pure []
    else Report.fail (.unreadable s.shown e)

/-- Sets the settings that the environment overrides. -/
def override (w : Surroundings) : List (String × String) → Mapping → Report LoadError Mapping
  | [], m => pure m
  | (name, key) :: rest, m =>
    match nonempty? (w.environment name) with
    | none => override w rest m
    | some raw => do
      Report.note (.settingOverridden key name)
      override w rest (m.put (.text key) (.text raw))

/-- Loads the settings of a run. -/
def loadOn (p : Platform) (w : Surroundings) (named : Option String) :
    Report LoadError Settings := do
  let s := source w named
  Report.note (.settingsSought s.shown)
  let m ← readSource p w s
  let m ← override w overrides m
  let settings ← (coerce p.host m).mapError .ofCoercion
  Report.note (.settingsResult settings)
  pure settings

end Settings

end VCalendar
