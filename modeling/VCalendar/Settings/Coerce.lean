import VCalendar.Host.Basic
import VCalendar.Text.Upper

/-!
# Settings from a mapping

Values are turned into settings as far as they make sense; what does not is
replaced by a default with a warning.  Only an infinite content limit is refused,
and a name or level whose text would hold an integer of too many digits.  Failures of
the host are passed on.
-/

namespace VCalendar

/-- Why a mapping gives no settings. -/
inductive CoercionError (ε : Type := Empty) where
  | infiniteLimit
  | tooManyDigits
  /-- The host fails. -/
  | host (cause : ε)
deriving DecidableEq, Repr

def CoercionError.message : CoercionError → String
  | .infiniteLimit => "cannot convert float infinity to integer"
  | .tooManyDigits =>
    "Exceeds the limit (" ++ toString Number.maxDigits ++
      " digits) for integer string conversion; " ++
      "use sys.set_int_max_str_digits() to increase the limit"

namespace Settings

/-- The names of the settings in a mapping. -/
def limitKey : String := "max_content_bytes"

def strictKey : String := "strict_blocks"

def fallbackKey : String := "fallback_timezone"

def levelKey : String := "log_level"

/-- The texts that count as true; no letter outside ASCII has one of theirs as its
lower case, so folding ASCII letters is enough to compare with them. -/
def trueTexts : List String := ["1", "true", "yes", "on"]

def lower (cs : List Char) : String :=
  String.ofList (cs.map Char.toLower)

variable {ε : Type}

/-- Passes on what interrupts, if anything does. -/
def check (interruption : Option ε) : Report (CoercionError ε) Unit :=
  match interruption with
  | none => pure ()
  | some cause => Report.fail (.host cause)

/-- The content limit of a value. -/
def coerceLimit (h : Host ε) (raw : Value) : Report (CoercionError ε) Int := do
  let limit ←
    match raw.toIntReading with
    | .int i => pure i
    | .infinite => Report.fail .infiniteLimit
    | .notInt => do
      check (h.logging raw)
      Report.note (.limitNotInt raw)
      pure defaultContentBytes
  if limit < minContentBytes then do
    Report.note (.limitBelowMinimum limit)
    pure minContentBytes
  else pure limit

/-- Whether a value asks for strict blocks. -/
def coerceStrict (raw : Value) : Bool :=
  match raw with
  | .text s => trueTexts.contains (lower (Text.stripBlanks s.toList))
  | v => v.truthy

/-- The text of a value; a text is its own. -/
def coerceText (h : Host ε) (raw : Value) : Report (CoercionError ε) String :=
  match raw with
  | .text s => pure s
  | v => do
    check (h.writing v)
    if v.isWritable then pure v.display else Report.fail .tooManyDigits

/-- The name of a zone to fall back on, or that of universal time if it is unknown. -/
def settleName (h : Host ε) (name : String) : Report (CoercionError ε) String := do
  Report.noteAll (h.database.lookupEvents name)
  match ← (Report.ofExcept (h.database.normalize name)).mapError CoercionError.host with
  | some _ => pure name
  | none => do
    Report.note (.fallbackUnknown name)
    pure "UTC"

/-- The fallback zone of a value: its name, or universal time if it is unknown. -/
def coerceFallback (h : Host ε) (raw : Value) : Report (CoercionError ε) String :=
  if raw.truthy then coerceText h raw >>= settleName h else settleName h "UTC"

/-- The log level of a value. -/
def coerceLevel (h : Host ε) (raw : Value) : Report (CoercionError ε) String :=
  match raw with
  | .null => pure "INFO"
  | v => do
    let text ← coerceText h v
    pure (Text.upper text)

/-- The settings of a mapping. -/
def coerce (h : Host ε) (m : Mapping) : Report (CoercionError ε) Settings := do
  let limit ← coerceLimit h ((m.find? limitKey).getD (.int defaultContentBytes))
  let fallback ← coerceFallback h ((m.find? fallbackKey).getD .null)
  let level ← coerceLevel h ((m.find? levelKey).getD .null)
  pure
    { maxContentBytes := limit
      strictBlocks := coerceStrict ((m.find? strictKey).getD (.bool false))
      fallbackTimezone := fallback
      logLevel := level }

/-- The settings as a mapping. -/
def toMapping (s : Settings) : Mapping :=
  [(.text limitKey, .int s.maxContentBytes), (.text strictKey, .bool s.strictBlocks),
    (.text fallbackKey, .text s.fallbackTimezone), (.text levelKey, .text s.logLevel)]

end Settings

end VCalendar
