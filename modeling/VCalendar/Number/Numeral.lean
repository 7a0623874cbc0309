import VCalendar.Number.Binary64
import VCalendar.Text.Blank
import VCalendar.Text.Digit

/-!
# Reading numbers

An integer is a sign and digits of any script, with single low lines allowed
between digits, and blanks other than the information separators around it.
A decimal number is a sign, ASCII digits with a point, and an exponent, or the
name of an infinity or of the undefined number.
-/

namespace VCalendar.Number

open VCalendar.Text

/-- The digit values of a run of digits with single low lines between them. -/
def digitRun? : List Char → Option (List Nat)
  | [] => none
  | [c] => (digitValue? c).map ([·])
  | c :: '_' :: rest => do
    let d ← digitValue? c
    let ds ← digitRun? rest
    pure (d :: ds)
  | c :: rest => do
    let d ← digitValue? c
    let ds ← digitRun? rest
    pure (d :: ds)

/-- The sign in front of a numeral and the rest. -/
def takeSign : List Char → Bool × List Char
  | '-' :: rest => (true, rest)
  | '+' :: rest => (false, rest)
  | cs => (false, cs)

/-- The most digits that are read as one integer. -/
def maxDigits : Nat := 4300

/-- Reads an integer in base ten. -/
def readInt? (s : String) : Option Int :=
  let (negative, body) := takeSign (trimBoth isPlainBlank s.toList)
  match digitRun? body with
  | some ds => if ds.length ≤ maxDigits then some (Binary64.signed negative (ofDigits ds)) else none
  | none => none

/-- The values of a run of ASCII digits, and what follows. -/
def takeDigits (cs : List Char) : List Nat × List Char :=
  ((cs.takeWhile Char.isDigit).filterMap asciiDigitValue?, cs.dropWhile Char.isDigit)

/-- The exponent of a decimal number: nothing, or a letter, a sign and digits. -/
def readExponent? : List Char → Option Int
  | [] => some 0
  | c :: rest =>
    if c = 'e' ∨ c = 'E' then
      let (negative, body) := takeSign rest
      match takeDigits body with
      | (ds, []) => if ds.isEmpty then none else some (Binary64.signed negative (ofDigits ds))
      | _ => none
    else none

/-- The magnitude of a decimal number. -/
def readMagnitude? (negative : Bool) (cs : List Char) : Option Binary64 :=
  let (whole, rest) := takeDigits cs
  let (fraction, rest) :=
    match rest with
    | '.' :: rest => takeDigits rest
    | rest => ([], rest)
  if whole.isEmpty && fraction.isEmpty then none
  else (readExponent? rest).map fun power =>
    .ofDecimal negative (ofDigits (whole ++ fraction)) (power - fraction.length)

/-- Reads a decimal number. -/
def readBinary64? (s : String) : Option Binary64 :=
  let (negative, body) := takeSign s.toList
  if body = "nan".toList then some .nan
  else if body = "inf".toList then some (.infinite negative)
  else readMagnitude? negative body

end VCalendar.Number
