import VCalendar.Host.Error
import VCalendar.Journal.Report
import VCalendar.Line.Token
import VCalendar.Text.Surrogate

/-!
# Errors

The causes for which a text is refused.  Those that concern the text itself
share a diagnostic: a kind, a message and where the cause lies, as far as it is
known.
-/

namespace VCalendar

/-- The family of errors.  Every kind but the first two concerns a text. -/
inductive ErrorKind where
  | general
  | configuration
  | parse
  | malformedLine
  | unbalancedBlock
  | dateTime
  | contentTooLarge
deriving DecidableEq, Repr

/-- Whether an error of this kind is about a text. -/
def ErrorKind.concernsText : ErrorKind → Bool
  | .general | .configuration => false
  | _ => true

/-- An error as it is shown. -/
structure Diagnostic where
  kind : ErrorKind
  message : String
  lineNumber : Option Int := none
  line : Option String := none
  property : Option String := none
deriving DecidableEq, Repr

/-- A line without pieces, and its number. -/
structure MalformedLine where
  number : Int
  line : String
  flaw : Line.Flaw
deriving DecidableEq, Repr

/-- A text shown with a reason in front of it and its line number. -/
def lineText (number : Int) (rest : String) : String :=
  "Line " ++ toString number ++ ": " ++ rest

def MalformedLine.diagnostic (m : MalformedLine) : Diagnostic where
  kind := .malformedLine
  message := lineText m.number (m.flaw.reason ++ ": " ++ Text.quote m.line)
  lineNumber := some m.number
  line := some m.line

/-- Blocks that do not pair. -/
inductive Imbalance where
  /-- An END line with no open block. -/
  | stray (number : Nat) (line name : String)
  /-- An END line whose name is not that of the block it closes. -/
  | mismatched (number : Nat) (line name : String) (opened : OpenLine)
  /-- The text ended inside a block. -/
  | unclosed (innermost : OpenLine) (outer : List OpenLine)
deriving DecidableEq, Repr

def Imbalance.diagnostic : Imbalance → Diagnostic
  | .stray number line name =>
    { kind := .unbalancedBlock
      message := lineText number ("END:" ++ name ++ " with no open block")
      lineNumber := some number
      line := some line }
  | .mismatched number line name opened =>
    { kind := .unbalancedBlock
      message := lineText number ("END:" ++ name ++ " closes BEGIN:" ++ opened.name ++
        " from line " ++ toString opened.line)
      lineNumber := some number
      line := some line }
  | .unclosed innermost outer =>
    { kind := .unbalancedBlock
      message := "Blocks still open at end of input: " ++ OpenLine.listText (innermost :: outer)
      lineNumber := some innermost.line }

/-- A root-level date that is none. -/
structure BadDate where
  number : Int
  name : String
  value : String
deriving DecidableEq, Repr

def BadDate.diagnostic (b : BadDate) : Diagnostic where
  kind := .dateTime
  message := lineText b.number ("unable to parse " ++ b.name ++ "=" ++ Text.quote b.value)
  lineNumber := some b.number
  property := some b.name

/-- Why a span of time is not measured. -/
inductive SpanError where
  /-- One of its ends, expressed in universal time, lies outside the calendar. -/
  | outOfCalendar
deriving DecidableEq, Repr

def SpanError.message : SpanError → String
  | .outOfCalendar => "date value out of range"

/-- Why a text is not read. -/
inductive ReadError where
  | missing
  /-- The text has no encoding. -/
  | unencodable (flaw : Text.EncodingFlaw)
  | tooLarge (size : Nat) (limit : Int)
  | malformed (cause : MalformedLine)
  | unbalanced (cause : Imbalance)
  | badDate (cause : BadDate)
  | badSpan (cause : SpanError)
  /-- The lookup of a zone fails. -/
  | lookup (cause : HostError)
deriving DecidableEq, Repr

namespace ReadError

/-- The diagnostic of an error that concerns the text. -/
def diagnostic? : ReadError → Option Diagnostic
  | .tooLarge size limit =>
    some { kind := .contentTooLarge, message := (Event.contentTooLarge size limit).message }
  | .malformed cause => some cause.diagnostic
  | .unbalanced cause => some cause.diagnostic
  | .badDate cause => some cause.diagnostic
  | .missing | .unencodable _ | .badSpan _ | .lookup _ => none

def message : ReadError → String
  | .missing => "VCAL content cannot be None"
  | .unencodable flaw => flaw.message
  | .badSpan cause => cause.message
  | .lookup cause => cause.message
  | e => e.diagnostic?.elim "" (·.message)

end ReadError

end VCalendar
