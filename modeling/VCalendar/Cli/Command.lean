import VCalendar.Cli.Options
import VCalendar.Document.Outline
import VCalendar.Logging
import VCalendar.Reader
import VCalendar.Settings.Load

/-!
# The command

The command sets up logging, loads the settings, reads its input and prints the
outline of the document.  It ends with 0 if there is a document, with 1 if there
is none, and with 2 if its arguments make no sense; some faults end it without
any of that.
-/

namespace VCalendar.Cli

/-- A fault that the command does not report in its own words. -/
inductive Fault where
  | settings (cause : LoadError)
  | input (cause : FileError)
  | document (cause : ReadError)
  | navigation (cause : NavigationError)
deriving DecidableEq, Repr

/-- How the command ends. -/
inductive Ending where
  | exit (status : Nat) (output errors : List String)
  | fault (cause : Fault)
deriving DecidableEq, Repr

/-- The log as it is written during a run. -/
structure Transcript where
  log : LogState := {}
  recent : RecentNames := []
  lines : List String := []

namespace Transcript

/-- Writes events. -/
def write (t : Transcript) (time : String) (events : List Event) : Transcript :=
  let (records, recent) := Event.recordsAfter t.recent events
  let (log, lines) := t.log.writeAll time records
  { log := log, recent := recent, lines := t.lines ++ lines }

/-- Ends the run with a message of the command. -/
def failWith (t : Transcript) (message : String) : Ending :=
  .exit 1 [] (t.lines ++ ["vcal-lite: " ++ message])

end Transcript

/-- The message about a file that cannot be read; it names the path of the input. -/
def unreadableText (o : Options) (path : String) (cause : FileError) : String :=
  "cannot read " ++ o.path ++ ": " ++ cause.message path

/-- The message about a failure of the operating system while the input was due. -/
def refusedText (o : Options) (words : String) : String :=
  "cannot read " ++ o.path ++ ": " ++ words

/-- The ending of a run whose settings could not be loaded. -/
def endWithoutSettings (t : Transcript) (o : Options) : LoadError → Ending
  | .unreadable path cause => t.failWith (unreadableText o path cause)
  | .host (.system words) => t.failWith (refusedText o words)
  | .notMapping path => t.failWith (LoadError.notMapping path).message
  | .malformed message => t.failWith message
  | cause => .fault (.settings cause)

/-- The ending of a run whose document could not be read. -/
def endWithoutDocument (t : Transcript) (o : Options) (cause : ReadError) : Ending :=
  match cause.diagnostic?, cause with
  | some d, _ => t.failWith ("parse failed: " ++ d.message)
  | none, .lookup (.system words) => t.failWith (refusedText o words)
  | none, cause => .fault (.document cause)

/-- Why there is no input. -/
inductive InputError where
  | unreadable (cause : FileError)
  /-- The text in place of the input has no encoding. -/
  | unencodable (flaw : Text.EncodingFlaw)

/-- The bytes of the input: those of a file, or those of what is given for a single dash. -/
def input (w : Surroundings) (stdin : Content) (o : Options) : Except InputError ByteArray :=
  if o.path = "-" then stdin.encoded.mapError .unencodable
  else (w.read o.path).mapError .unreadable

/-- The ending of a run that has no input. -/
def endWithoutInput (t : Transcript) (o : Options) : InputError → Ending
  | .unreadable .nulInPath => .fault (.input .nulInPath)
  | .unreadable cause => t.failWith (unreadableText o (Path.normalize o.path) cause)
  | .unencodable flaw => .fault (.document (.unencodable flaw))

/-- The part of a run that has its document. -/
def endWithDocument (t : Transcript) (time : String) (o : Options) (document : Document) :
    Ending :=
  let t := t.write time [.inputRead o.path document.nodes.size]
  match document.outline with
  | .ok lines => .exit 0 lines t.lines
  | .error cause => .fault (.navigation cause)

/-- Reads the input with the reader of the settings, which looks for zones in the
database. -/
def readInput (db : ZoneName.Database HostError) (settings : Settings) (bytes : ByteArray) :
    Report ReadError Document := do
  let reader ← (Reader.configured db settings db.resolver).mapError .lookup
  reader.read (.bytes bytes)

/-- The part of a run from the input on. -/
def runReader (p : Platform) (w : Surroundings) (stdin : Content) (time : String) (o : Options)
    (settings : Settings) (t : Transcript) : Ending :=
  match input w stdin o with
  | .error cause => endWithoutInput t o cause
  | .ok bytes =>
    let report := readInput p.host.database settings bytes
    let t := t.write time report.events
    match report.outcome with
    | .error cause => endWithoutDocument t o cause
    | .ok document => endWithDocument t time o document

/-- The settings that the command line leaves of those loaded. -/
def effectiveSettings (o : Options) (s : Settings) : Settings :=
  if o.strict then { s with strictBlocks := true } else s

/-- The part of a run behind the reading of its arguments. -/
def runOptions (p : Platform) (w : Surroundings) (stdin : Content) (time : String)
    (o : Options) : Ending :=
  let (log, events) := LogState.configure {} w.environment o.debug none
  let t := ({ log := log } : Transcript).write time events
  let report := Settings.loadOn p w o.config
  let t := t.write time report.events
  match report.outcome with
  | .error cause => endWithoutSettings t o cause
  | .ok settings =>
    let (log, _, events) :=
      if o.debug then (t.log, true, []) else t.log.applyRootLevel settings.logLevel
    let t := { t with log := log }.write time events
    runReader p w stdin time o (effectiveSettings o settings) t

/-- Runs the command on its arguments. -/
def runOn (p : Platform) (w : Surroundings) (stdin : Content) (time : String)
    (arguments : List String) : Ending :=
  match Options.ofArguments p.dashIsArgument arguments with
  | .error .help => .exit 0 helpLines []
  | .error (.misuse e) => .exit 2 [] e.lines
  | .ok o => runOptions p w stdin time o

end VCalendar.Cli
