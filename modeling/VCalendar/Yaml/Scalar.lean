import VCalendar.Value
import VCalendar.Yaml.Error

/-!
# Plain scalars

A plain scalar is a text unless its characters have the shape of nothing, a truth
value, an integer or a floating-point number.  Integers are decimal, octal with a
leading zero, binary or hexadecimal, and may hold low lines.  A floating-point
number has a point, and its exponent a sign.
-/

namespace VCalendar.Yaml

open VCalendar.Number

def nullWords : List String := ["", "~", "null", "Null", "NULL"]

def trueWords : List String :=
  ["yes", "Yes", "YES", "true", "True", "TRUE", "on", "On", "ON"]

def falseWords : List String :=
  ["no", "No", "NO", "false", "False", "FALSE", "off", "Off", "OFF"]

def infinityWords : List String := [".inf", ".Inf", ".INF"]

def nanWords : List String := [".nan", ".NaN", ".NAN"]

/-- The value of a digit in a base up to 16. -/
def digitIn? (base : Nat) (c : Char) : Option Nat :=
  let v :=
    if c.isDigit then c.toNat - 48
    else if 'a' ≤ c ∧ c ≤ 'f' then c.toNat - 87
    else if 'A' ≤ c ∧ c ≤ 'F' then c.toNat - 55
    else base
  if v < base then some v else none

/-- The number spelled by the digits of a base, low lines left out.  At least one
character is needed. -/
def digitsIn? (base : Nat) (cs : List Char) : Option Nat :=
  if cs.isEmpty then none
  else ((cs.filter (· ≠ '_')).mapM (digitIn? base)).map fun ds =>
    ds.foldl (fun n d => base * n + d) 0

/-- The magnitude of an integer. -/
def magnitude? : List Char → Option Nat
  | '0' :: 'b' :: rest => digitsIn? 2 rest
  | '0' :: 'x' :: rest => digitsIn? 16 rest
  | ['0'] => some 0
  | '0' :: rest => digitsIn? 8 rest
  | c :: rest => if c = '_' then none else digitsIn? 10 (c :: rest)
  | [] => none

def int? (cs : List Char) : Option Int :=
  let (negative, body) := takeSign cs
  (magnitude? body).map (Binary64.signed negative)

/-- What keeps a scalar in the shape of an integer from naming one.  Only in base ten
is the number of digits limited. -/
def numeralFlaw? (cs : List Char) : Option NumeralFlaw :=
  let body := (takeSign cs).2
  if (magnitude? body).isNone then none
  else
    match body.filter (· ≠ '_') with
    | ['0', 'b'] => some (.noDigits 2)
    | ['0', 'x'] => some (.noDigits 16)
    | '0' :: _ => none
    | digits => if maxDigits < digits.length then some (.tooManyDigits digits.length) else none

def isDigitOrLow (c : Char) : Bool :=
  c.isDigit || c = '_'

/-- Whether the part of a number behind its digits is an exponent or nothing. -/
def isExponent : List Char → Bool
  | [] => true
  | c :: s :: d :: rest =>
    (c = 'e' || c = 'E') && (s = '+' || s = '-') && (d :: rest).all Char.isDigit
  | _ => false

/-- Whether a number without its sign has the shape of a floating-point number. -/
def isFloatShape (signed : Bool) (cs : List Char) : Bool :=
  match cs with
  | '.' :: c :: rest => !signed && c.isDigit && isExponent (rest.dropWhile isDigitOrLow)
  | c :: _ =>
    c.isDigit &&
      match cs.dropWhile isDigitOrLow with
      | '.' :: rest => isExponent (rest.dropWhile isDigitOrLow)
      | _ => false
  | [] => false

def float? (cs : List Char) : Option Binary64 :=
  let (negative, body) := takeSign cs
  let signed := body.length ≠ cs.length
  if infinityWords.contains (String.ofList body) then some (.infinite negative)
  else if nanWords.contains (String.ofList cs) then some .nan
  else if isFloatShape signed body then readMagnitude? negative (body.filter (· ≠ '_'))
  else none

/-- The value of a plain scalar. -/
def plainValue (cs : List Char) : Value :=
  let s := String.ofList cs
  if nullWords.contains s then .null
  else if trueWords.contains s then .bool true
  else if falseWords.contains s then .bool false
  else
    match int? cs, float? cs with
    | some i, _ => .int i
    | none, some x => .float x
    | none, none => .text s

end VCalendar.Yaml
