import VCalendar.Text.Digit
import VCalendar.Text.Quoted

/-!
# The options of the command

The command takes one path and options in any order.  A long option may be
shortened as long as it stays unambiguous, and its argument may follow an equals
sign.  The short form of help may be repeated in one word.  Behind a double dash
everything is an operand; a single dash and negative numbers always are.
-/

namespace VCalendar.Cli

/-- What the command is asked to do. -/
structure Options where
  path : String
  config : Option String := none
  strict : Bool := false
  debug : Bool := false
deriving DecidableEq, Repr

inductive Switch where
  | help
  | config
  | strict
  | debug
deriving DecidableEq, Repr

/-- The switches in the order of their listing. -/
def Switch.all : List Switch := [.help, .config, .strict, .debug]

def Switch.long : Switch → String
  | .help => "--help"
  | .config => "--config"
  | .strict => "--strict"
  | .debug => "--debug"

/-- A switch as a message names it. -/
def Switch.shown : Switch → String
  | .help => "-h/--help"
  | s => s.long

/-- Why the arguments make no sense. -/
inductive UsageError where
  | missingPath
  | unrecognized (arguments : List String)
  | missingArgument (switch : Switch)
  | ignoredArgument (switch : Switch) (argument : String)
  | ambiguous (argument : String) (candidates : List Switch)
deriving DecidableEq, Repr

def UsageError.message : UsageError → String
  | .missingPath => "the following arguments are required: path"
  | .unrecognized arguments => "unrecognized arguments: " ++ " ".intercalate arguments
  | .missingArgument s => "argument " ++ s.shown ++ ": expected one argument"
  | .ignoredArgument s argument =>
    "argument " ++ s.shown ++ ": ignored explicit argument " ++ Text.quote argument
  | .ambiguous argument candidates =>
    "ambiguous option: " ++ argument ++ " could match " ++
      ", ".intercalate (candidates.map Switch.long)

/-- Why there are no options to run with. -/
inductive Refusal where
  | help
  | misuse (error : UsageError)
deriving DecidableEq, Repr

/-! ## The kinds of arguments -/

/-- What an argument is, on its own. -/
inductive Word where
  | operand
  /-- A switch, with what follows its equals sign. -/
  | switch (s : Switch) (argument : Option String)
  | unknown
deriving DecidableEq, Repr

/-- A minus sign, digits, and a fraction or none. -/
def isNegativeNumber (cs : List Char) : Bool :=
  let body := if cs.getLast? = some '\n' then cs.dropLast else cs
  match body with
  | '-' :: rest =>
    match rest.dropWhile Text.isDecimalDigit with
    | [] => !rest.isEmpty
    | '.' :: fraction => !fraction.isEmpty && fraction.all Text.isDecimalDigit
    | _ => false
  | _ => false

/-- The switch whose long form is spelled in full. -/
def exactSwitch? (s : String) : Option Switch :=
  Switch.all.find? (·.long = s)

/-- An argument up to its first equals sign, and what follows the sign. -/
def splitEquals (cs : List Char) : List Char × Option String :=
  match cs.dropWhile (· ≠ '=') with
  | [] => (cs, none)
  | _ :: rest => (cs.takeWhile (· ≠ '='), some (String.ofList rest))

/-- The short form of help with more behind it, an equals sign between them left out:
letters that ask for help again add nothing, and the rest is an argument. -/
def helpWord (more : List Char) : Word :=
  match more, more.dropWhile (· = 'h') with
  | _ :: _, [] => .switch .help none
  | _, rest => .switch .help (some (String.ofList rest))

def classify (argument : String) : Except UsageError Word :=
  let cs := argument.toList
  let (name, value) := splitEquals cs
  let otherwise : Word :=
    if isNegativeNumber cs ∨ ' ' ∈ cs then .operand else .unknown
  match cs with
  | ['-', 'h'] => .ok (.switch .help none)
  | '-' :: 'h' :: '=' :: more => .ok (helpWord more)
  | '-' :: 'h' :: more => .ok (helpWord more)
  | '-' :: '-' :: _ =>
    match exactSwitch? (String.ofList name) with
    | some s => .ok (.switch s value)
    | none =>
      match Switch.all.filter fun s => name.isPrefixOf s.long.toList with
      | [] => .ok otherwise
      | [s] => .ok (.switch s value)
      | candidates => .error (.ambiguous argument candidates)
  | '-' :: _ :: _ => .ok otherwise
  | _ => .ok .operand

/-! ## Gathering -/

/-- What the arguments so far have said. -/
structure Gathered where
  path : Option String := none
  config : Option String := none
  strict : Bool := false
  debug : Bool := false
  extras : List String := []

namespace Gathered

def addExtras (g : Gathered) (more : List String) : Gathered :=
  { g with extras := g.extras ++ more }

/-- Takes an operand: the first is the path. -/
def addOperand (g : Gathered) (argument : String) : Gathered :=
  match g.path with
  | none => { g with path := some argument }
  | some _ => g.addExtras [argument]

/-- Takes what stands from a double dash on.  A path right before the dash takes the
dash with it. -/
def addFinal (g : Gathered) (afterPath : Bool) (dash : Option (List String)) : Gathered :=
  match dash, g.path with
  | none, _ => g
  | some [], none => g.addExtras ["--"]
  | some (path :: rest), none => { g with path := some path }.addExtras rest
  | some rest, some _ => if afterPath then g.addExtras rest else g.addExtras ("--" :: rest)

/-- Takes the name of the settings file.  A double dash may be no name, and then it takes
back an earlier one. -/
def addConfig (dashIsArgument : Bool) (g : Gathered) (name : String) : Gathered :=
  { g with config := if name = "--" ∧ dashIsArgument = false then none else some name }

/-- A switch that takes no argument. -/
def addSwitch (g : Gathered) : Switch → Option String → Except Refusal Gathered
  | s, some argument => .error (.misuse (.ignoredArgument s argument))
  | .help, none => .error .help
  | .strict, none => .ok { g with strict := true }
  | .debug, none => .ok { g with debug := true }
  | .config, none => .error (.misuse (.missingArgument .config))

/-- Takes the arguments in front of a double dash, and then those behind it. -/
def addAll (dashIsArgument : Bool) (g : Gathered) (afterPath : Bool)
    (dash : Option (List String)) : List (String × Word) → Except Refusal Gathered
  | [] => .ok (g.addFinal afterPath dash)
  | (argument, .operand) :: rest =>
    addAll dashIsArgument (g.addOperand argument) g.path.isNone dash rest
  | (_, .switch .config (some name)) :: rest =>
    addAll dashIsArgument (g.addConfig dashIsArgument name) false dash rest
  | (_, .switch .config none) :: (name, .operand) :: rest =>
    addAll dashIsArgument (g.addConfig dashIsArgument name) false dash rest
  | (_, .switch s argument) :: rest => do
    let g ← g.addSwitch s argument
    addAll dashIsArgument g false dash rest
  | (argument, .unknown) :: rest =>
    addAll dashIsArgument (g.addExtras [argument]) false dash rest

/-- The options that were gathered. -/
def options (g : Gathered) : Except Refusal Options :=
  match g.path, g.extras with
  | none, _ => .error (.misuse .missingPath)
  | some path, [] => .ok ⟨path, g.config, g.strict, g.debug⟩
  | some _, extras => .error (.misuse (.unrecognized extras))

end Gathered

/-- What stands behind the first double dash. -/
def behindDash? (arguments : List String) : Option (List String) :=
  match arguments.dropWhile (· ≠ "--") with
  | [] => none
  | _ :: rest => some rest

/-- Reads the arguments of the command. -/
def Options.ofArguments (dashIsArgument : Bool) (arguments : List String) :
    Except Refusal Options := do
  let front := arguments.takeWhile (· ≠ "--")
  let words ← (front.mapM fun a => (classify a).map (a, ·)).mapError .misuse
  let g ← Gathered.addAll dashIsArgument {} false (behindDash? arguments) words
  g.options

/-! ## Texts -/

def usageLine : String :=
  "usage: vcal-lite [-h] [--config PATH] [--strict] [--debug] path"

/-- The answer to a request for help. -/
def helpLines : List String :=
  [usageLine,
    "",
    "vcal_lite - dump the structure of a vCalendar (VCAL) file",
    "",
    "positional arguments:",
    "  path           VCAL file to parse, or '-' for stdin",
    "",
    "options:",
    "  -h, --help     show this help message and exit",
    "  --config PATH  YAML config file (default: $VCAL_LITE_CONFIG or",
    "                 ./vcal_lite.yaml)",
    "  --strict       Treat unmatched END and unclosed BEGIN as errors",
    "  --debug        Enable debug logging",
    "",
    "Examples:",
    "  vcal-lite event.vcs                 # Print tree and derived fields",
    "  cat event.vcs | vcal-lite -         # Read from stdin",
    "  vcal-lite --strict event.vcs        # Fail on unbalanced BEGIN/END",
    "        "]

def UsageError.lines (e : UsageError) : List String :=
  [usageLine, "vcal-lite: error: " ++ e.message]

end VCalendar.Cli
