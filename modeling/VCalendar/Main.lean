import Std.Time.Format
import VCalendar.Cli.Run

/-!
# The command

Reads what a run needs from outside, runs the command, and prints what it says.
-/

namespace VCalendar.Cli

/-- The number and the words of a failure; numbers may come negated in 32 bits. -/
def failureNumber (e : IO.Error) : Nat × String :=
  let plain (code : UInt32) (words : String) : Nat × String :=
    let n := code.toNat
    (if n < Nat.pow 2 31 then n else Nat.pow 2 32 - n, words)
  match e with
  | .noFileOrDirectory _ code words => plain code words
  | .inappropriateType _ code words => plain code words
  | .invalidArgument _ code words => plain code words
  | .permissionDenied _ code words => plain code words
  | .resourceExhausted _ code words => plain code words
  | .noSuchThing _ code words => plain code words
  | .otherError code words => plain code words
  | e => (5, toString e)

/-- A failure to read a file. -/
def fileErrorOf (e : IO.Error) : FileError :=
  let (number, words) := failureNumber e
  match [FileError.absent, .notDirectory, .isDirectory, .nameTooLong].find?
      (·.words.1 = number) with
  | some cause => cause
  | none => if number = 13 then .other 13 "Permission denied" else .other number words

def readFile (path : String) : IO (Except FileError ByteArray) := do
  if path.toList.contains '\x00' then return .error .nulInPath
  try
    return .ok (← IO.FS.readBinFile (Path.normalize path))
  catch e =>
    return .error (fileErrorOf e)

/-- All bytes of a stream. -/
partial def readAll (stream : IO.FS.Stream) (read : ByteArray) : IO ByteArray := do
  let more ← stream.read 65536
  if more.isEmpty then return read
  readAll stream (read ++ more)

/-- The environment variables that a run may look at. -/
def variableNames : List String :=
  [Settings.pathVariable, LogState.debugVariable] ++ Settings.overrides.map (·.1)

/-- The time of the run as the log shows it. -/
def now : IO String := do
  return (← Std.Time.PlainDateTime.now).format "uuuu-MM-dd HH:mm:ss,SSS"

def printLines (stream : IO.FS.Stream) (lines : List String) : IO Unit := do
  for line in lines do
    stream.putStrLn line
  stream.flush

def Fault.message : Fault → String
  | .settings cause => cause.message
  | .input cause => cause.message ""
  | .document cause => cause.message
  | .navigation cause => cause.message

end VCalendar.Cli

open VCalendar VCalendar.Cli in
def main (arguments : List String) : IO UInt32 := do
  let environment ← variableNames.mapM fun name => do
    return (name, ← IO.getEnv name)
  let outside : Surroundings :=
    { directory := (← IO.currentDir).toString
      read := fun _ => .error .absent
      environment := fun name => (environment.lookup name).getD none }
  let mut files : List (String × Except FileError ByteArray) := []
  let mut stdin : ByteArray := .empty
  if let .ok o := Options.ofArguments Platform.standard.dashIsArgument arguments then
    let source := (Settings.source outside o.config).path
    files := [(source, ← readFile source)]
    if o.path = "-" then stdin ← readAll (← IO.getStdin) .empty
    else files := files ++ [(o.path, ← readFile o.path)]
  let given := files
  let w := { outside with read := fun path => (given.lookup path).getD (.error .absent) }
  match run w stdin (← now) arguments with
  | .exit status output errors =>
    printLines (← IO.getStderr) errors
    printLines (← IO.getStdout) output
    return status.toUInt32
  | .fault cause =>
    printLines (← IO.getStderr) [cause.message]
    return 1
