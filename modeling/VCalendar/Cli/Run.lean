import VCalendar.Cli.Command
import VCalendar.Standard.Platform

/-!
# Running the command

The command on the standard platform, with bytes as its standard input.
-/

namespace VCalendar.Cli

/-- Runs the command on its arguments. -/
def run (w : Surroundings) (stdin : ByteArray) (time : String) (arguments : List String) :
    Ending :=
  runOn .standard w (.bytes stdin) time arguments

end VCalendar.Cli
