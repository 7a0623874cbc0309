import VCalendar.Number.Binary64

/-!
# The fewest digits of a floating-point number

A number is written with the fewest decimal digits that read back to it, and of
those with the ones nearest to it.  Positional notation is used from `0.0001` up
to `10 ^ 16`, with at least one digit behind the point; other numbers carry an
exponent of at least two digits.
-/

namespace VCalendar.Number.Binary64

/-- `a / b < 10 ^ p` for an integer power. -/
def belowPowerOfTen (a b : Nat) (p : Int) : Bool :=
  if 0 ≤ p then a < b * Nat.pow 10 p.toNat else a * Nat.pow 10 (-p).toNat < b

/-- The least `p` with `a / b < 10 ^ p`, searched upward from an estimate below it. -/
def decimalPoint (a b : Nat) : Int :=
  let guess : Int := ((a.log2 : Int) - b.log2 - 1) * 30103 / 100000
  let candidates := (List.range 5).map fun i : Nat => guess + i
  (candidates.find? (belowPowerOfTen a b)).getD guess

/-- `n * 10 ^ p` relative to `a / b`, as two natural numbers to compare. -/
def onGrid (a b n : Nat) (p : Int) : Nat × Nat :=
  if 0 ≤ p then (n * Nat.pow 10 p.toNat * b, a) else (n * b, a * Nat.pow 10 (-p).toNat)

/-- The distance of the grid point `n * 10 ^ p` from `a / b`, up to a common factor. -/
def gridDistance (a b n : Nat) (p : Int) : Nat :=
  let (x, y) := onGrid a b n p
  if x ≤ y then y - x else x - y

/-- The magnitude `m * 2 ^ e` in quarters of a unit: the least, the exact and the
greatest value, over one denominator, that round to it. -/
def roundingInterval (m : Nat) (e : Int) : Nat × Nat × Nat × Nat :=
  let lower := if m = Nat.pow 2 52 ∧ minExponent < e then 4 * m - 1 else 4 * m - 2
  if 0 ≤ e then
    (lower * Nat.pow 2 e.toNat, 4 * m * Nat.pow 2 e.toNat, (4 * m + 2) * Nat.pow 2 e.toNat, 4)
  else (lower, 4 * m, 4 * m + 2, 4 * Nat.pow 2 (-e).toNat)

/-- Whether the grid point `n * 10 ^ p` rounds to `m * 2 ^ e`; the ends of the
interval do when the mantissa is even. -/
def readsBack (m : Nat) (e : Int) (n : Nat) (p : Int) : Bool :=
  let (low, _, high, d) := roundingInterval m e
  let (x, y) := onGrid low d n p
  let (x', y') := onGrid high d n p
  if m % 2 = 0 then y ≤ x && x' ≤ y' else y < x && x' < y'

/-- The grid point of spacing `10 ^ p` nearest to the number among those that read back. -/
def nearestOnGrid? (m : Nat) (e : Int) (p : Int) : Option Nat :=
  let (_, value, _, d) := roundingInterval m e
  let below :=
    if 0 ≤ p then value / (d * Nat.pow 10 p.toNat) else value * Nat.pow 10 (-p).toNat / d
  match readsBack m e below p, readsBack m e (below + 1) p with
  | true, true =>
    let down := gridDistance value d below p
    let up := gridDistance value d (below + 1) p
    some (if down < up then below else if up < down then below + 1 else below + below % 2)
  | true, false => some below
  | false, true => some (below + 1)
  | false, false => none

/-- The shortest digits of `m * 2 ^ e` and their power of ten: the first of the
grids of 1, 2, … 17 digits that holds a point reading back. -/
def shortest (m : Nat) (e : Int) : Nat × Int :=
  let (_, value, _, d) := roundingInterval m e
  let point := decimalPoint value d
  let grids := (List.range 17).map fun n : Nat => point - (n + 1)
  (grids.findSome? fun p => (nearestOnGrid? m e p).map (·, p)).getD (0, 0)

/-- Trailing zeros of the digits are left to the power of ten. -/
def dropTrailingZeros : List Char → List Char :=
  fun ds => (ds.reverse.dropWhile (· = '0')).reverse

def zeros (n : Nat) : List Char := List.replicate n '0'

/-- The text of an exponent, sign and two digits at least. -/
def exponentText (x : Int) : List Char :=
  let ds := (toString x.natAbs).toList
  (if x < 0 then '-' else '+') :: (zeros (2 - ds.length) ++ ds)

/-- Lays out the digits of `0.ds * 10 ^ point`. -/
def layout (ds : List Char) (point : Int) : List Char :=
  if -4 < point ∧ point ≤ 16 then
    if point ≤ 0 then '0' :: '.' :: (zeros (-point).toNat ++ ds)
    else
      let whole := point.toNat
      if ds.length ≤ whole then ds ++ zeros (whole - ds.length) ++ ['.', '0']
      else ds.take whole ++ '.' :: ds.drop whole
  else
    let fraction := ds.drop 1
    ds.take 1 ++ (if fraction.isEmpty then [] else '.' :: fraction) ++
      'e' :: exponentText (point - 1)

/-- The text of a number. -/
def text : Binary64 → String
  | .nan => "nan"
  | .infinite negative => if negative then "-inf" else "inf"
  | .finite negative m e =>
    let body :=
      if m = 0 then "0.0".toList
      else
        let (n, p) := shortest m e
        let ds := (toString n).toList
        layout (dropTrailingZeros ds) (p + ds.length)
    String.ofList (if negative then '-' :: body else body)

end VCalendar.Number.Binary64
