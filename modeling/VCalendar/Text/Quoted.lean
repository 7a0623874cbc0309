import VCalendar.Text.Printable

/-!
# Quoted text

Text is shown between quotes on one line of printable characters.  Single
quotes are used unless the text holds a single quote and no double quote.  The
backslash and the quote in use are escaped, as are the characters that are not
printable: tab, line feed and carriage return by a letter, the others by two,
four or eight hexadecimal digits.
-/

namespace VCalendar.Text

def hexDigit (n : Nat) : Char :=
  "0123456789abcdef".toList.getD (n % 16) '0'

/-- The lowest `width` hexadecimal digits of a number. -/
def hexDigits : Nat → Nat → List Char
  | 0, _ => []
  | width + 1, n => hexDigits width (n / 16) ++ [hexDigit n]

/-- How one character is written between quotes `q`. -/
def quoteChar (q c : Char) : List Char :=
  if c = q ∨ c = '\\' then ['\\', c]
  else if c = '\t' then ['\\', 't']
  else if c = '\n' then ['\\', 'n']
  else if c = '\r' then ['\\', 'r']
  else if isPrintable c then [c]
  else if c.toNat < 0x100 then '\\' :: 'x' :: hexDigits 2 c.toNat
  else if c.toNat < 0x10000 then '\\' :: 'u' :: hexDigits 4 c.toNat
  else '\\' :: 'U' :: hexDigits 8 c.toNat

/-- The quote that the text is written with. -/
def quoteMark (cs : List Char) : Char :=
  if cs.contains '\'' && !cs.contains '"' then '"' else '\''

def quoteChars (cs : List Char) : List Char :=
  let q := quoteMark cs
  q :: cs.flatMap (quoteChar q) ++ [q]

/-- The text between quotes, with escapes. -/
def quote (s : String) : String :=
  String.ofList (quoteChars s.toList)

/-- Text as quoted, or the word for its absence. -/
def quote? : Option String → String
  | none => "None"
  | some s => quote s

end VCalendar.Text
