import VCalendar.Number.Numeral

/-!
# Refusals

A document may be refused for its characters, its structure, its keys, or for a plain
scalar that has the shape of an integer and yet names none.
-/

namespace VCalendar.Yaml

/-- Why a scalar in the shape of an integer names none. -/
inductive NumeralFlaw where
  /-- Nothing but low lines follows the letter of a base. -/
  | noDigits (base : Nat)
  /-- A decimal integer is too long. -/
  | tooManyDigits (count : Nat)
deriving DecidableEq, Repr

def NumeralFlaw.message : NumeralFlaw → String
  | .noDigits base => "invalid literal for int() with base " ++ toString base ++ ": ''"
  | .tooManyDigits count =>
    "Exceeds the limit (" ++ toString Number.maxDigits ++
      " digits) for integer string conversion: value has " ++ toString count ++
      " digits; use sys.set_int_max_str_digits() to increase the limit"

/-- Why a document is refused. -/
inductive Error where
  | unprintable (c : Char)
  | unexpected (c : Char)
  | unexpectedEnd
  | documentMark
  | badEscape
  | keyNotAllowed
  | missingColon
  | badStructure
  | badKey
  | numeral (flaw : NumeralFlaw)
deriving DecidableEq, Repr

def Error.message : Error → String
  | .unprintable _ => "special characters are not allowed"
  | .unexpected _ => "found character that cannot start any token"
  | .unexpectedEnd => "found unexpected end of stream"
  | .documentMark => "found unexpected document separator"
  | .badEscape => "found unknown escape character"
  | .keyNotAllowed => "mapping values are not allowed here"
  | .missingColon => "could not find expected ':'"
  | .badStructure => "expected a single well-formed document"
  | .badKey => "found unhashable key"
  | .numeral flaw => flaw.message

end VCalendar.Yaml
