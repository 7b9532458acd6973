import ConventionLint.Decimal.Double
import ConventionLint.Decimal.Natural

/-!
The shortest decimal that reads back as a given double, and how it is laid out.

A decimal reads back as a double if it lies in the interval of reals that round to the double. For
each number of digits the two decimals next to the value are tried; the first number of digits with a
hit wins, and of two hits the nearer.
-/
namespace ConventionLint.Decimal

inductive Tie where
  | up
  | even
  deriving DecidableEq, Repr

/-- Digits after a decimal point that stands `point` places to the right of their start. -/
structure Digits where
  digits : List Char
  point : Int
  deriving DecidableEq, Repr

namespace Double

def low (d : Double) : Nat :=
  4 * d.mantissa - if d.mantissa = leastNormal ∧ -1074 < d.exponent then 1 else 2

def high (d : Double) : Nat := 4 * d.mantissa + 2

/-- The power of two and ten that turns quarters into units of `10 ^ unit`, as a fraction. -/
def gridFactor (d : Double) (unit : Int) : Nat × Nat :=
  let e := d.exponent - 2
  (Nat.pow 2 e.toNat * Nat.pow 10 (-unit).toNat, Nat.pow 2 (-e).toNat * Nat.pow 10 unit.toNat)

def pointOf (d : Double) : Int :=
  let guess : Int := ((d.mantissa.log2 : Int) + d.exponent) * 30103 / 100000
  let below (p : Int) : Bool := decide (4 * d.mantissa * (d.gridFactor p).1 < (d.gridFactor p).2)
  (([-1, 0, 1].map (guess + ·)).find? below).getD (guess + 2)

def gridHit? (d : Double) (tie : Tie) (unit : Int) : Option Nat :=
  let (factor, denominator) := d.gridFactor unit
  let value := 4 * d.mantissa * factor
  let below := value / denominator
  let closed := d.mantissa % 2 = 0
  let low := d.low * factor
  let high := d.high * factor
  let above := (below + 1) * denominator
  let lowHit := low < below * denominator ∨ (closed ∧ low = below * denominator)
  let highHit := above < high ∨ (closed ∧ above = high)
  let twice := 2 * (value % denominator)
  let nearAbove := twice > denominator ∨ (twice = denominator ∧ (tie = .up ∨ below % 2 = 1))
  if lowHit ∧ highHit then some (if nearAbove then below + 1 else below)
  else if lowHit then some below
  else if highHit then some (below + 1)
  else none

def dropTrailingZeros (digits : List Char) : List Char := (digits.reverse.dropWhile (· = '0')).reverse

def shortest (d : Double) (tie : Tie) : Digits :=
  let point := d.pointOf
  let hit := (List.range 17).findSome? fun k =>
    (d.gridHit? tie (point - (k + 1 : Nat))).map fun n => (k + 1, n)
  let (length, n) := hit.getD (1, 0)
  let digits := ofNat n
  ⟨dropTrailingZeros digits, point + ((digits.length : Int) - length)⟩

end Double

/-- How decimals are laid out: by position while the point lies in a window, else with an exponent. -/
structure Layout where
  tie : Tie
  window : Option (Int × Int)
  deriving Repr

namespace Layout

def zeros (n : Nat) : List Char := List.replicate n '0'

def positional (d : Digits) : List Char :=
  if d.point ≤ 0 then '0' :: '.' :: zeros (-d.point).toNat ++ d.digits
  else if d.digits.length ≤ d.point.toNat then
    d.digits ++ zeros (d.point.toNat - d.digits.length) ++ ['.', '0']
  else d.digits.take d.point.toNat ++ '.' :: d.digits.drop d.point.toNat

def scientific (d : Digits) : List Char :=
  match d.digits with
  | [] => []
  | [c] => c :: 'e' :: ofInt (d.point - 1)
  | c :: cs => c :: '.' :: cs ++ 'e' :: ofInt (d.point - 1)

def write (layout : Layout) (negative : Bool) (d : Double) : List Char :=
  let body :=
    if d.isZero then ['0', '.', '0']
    else
      let digits := d.shortest layout.tie
      match layout.window with
      | none => positional digits
      | some (low, high) =>
        if low ≤ digits.point ∧ digits.point ≤ high then positional digits else scientific digits
  if negative then '-' :: body else body

end Layout

end ConventionLint.Decimal
