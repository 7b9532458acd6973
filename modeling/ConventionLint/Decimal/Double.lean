namespace ConventionLint.Decimal

def roundHalfEven (num den : Nat) : Nat :=
  let quotient := num / den
  let twice := 2 * (num % den)
  if twice > den ∨ (twice = den ∧ quotient % 2 = 1) then quotient + 1 else quotient

/-- The size of a finite double: `mantissa * 2 ^ exponent`. -/
structure Double where
  mantissa : Nat
  exponent : Int
  deriving DecidableEq, Repr

namespace Double

def leastNormal : Nat := 4503599627370496

def zero : Double := ⟨0, -1074⟩

def isZero (d : Double) : Bool := d.mantissa == 0

def scale (num den : Nat) (e : Int) : Nat × Nat :=
  if 0 ≤ e then (num, den * Nat.pow 2 e.toNat) else (num * Nat.pow 2 (-e).toNat, den)

def ofRatio (num den : Nat) : Option Double :=
  if num = 0 then some zero
  else
    let least : Int := max ((num.log2 : Int) - den.log2 - 53) (-1074)
    let first := scale num den least
    let exponent := if first.1 / first.2 < 2 * leastNormal then least else least + 1
    let scaled := scale num den exponent
    let mantissa := roundHalfEven scaled.1 scaled.2
    let (mantissa, exponent) :=
      if mantissa = 2 * leastNormal then (leastNormal, exponent + 1) else (mantissa, exponent)
    if 971 < exponent then none else some ⟨mantissa, exponent⟩

def ratio (d : Double) : Nat × Nat :=
  if 0 ≤ d.exponent then (d.mantissa * Nat.pow 2 d.exponent.toNat, 1)
  else (d.mantissa, Nat.pow 2 (-d.exponent).toNat)

def mul (a b : Double) : Option Double :=
  ofRatio (a.ratio.1 * b.ratio.1) (a.ratio.2 * b.ratio.2)

def div (a b : Double) : Option Double :=
  ofRatio (a.ratio.1 * b.ratio.2) (a.ratio.2 * b.ratio.1)

def pow10 (n : Nat) : Double := (ofRatio (Nat.pow 10 n) 1).getD zero

/-- The double nearest to `significand * 10 ^ exponent`, or none if it is too large. The significand has
at most `length` digits, so far exponents decide by themselves. -/
def ofDecimal (significand length : Nat) (exponent : Int) : Option Double :=
  if significand = 0 then some zero
  else if 400 < exponent then none
  else if exponent < -(400 + length : Int) then some zero
  else if 0 ≤ exponent then ofRatio (significand * Nat.pow 10 exponent.toNat) 1
  else ofRatio significand (Nat.pow 10 (-exponent).toNat)

end Double

end ConventionLint.Decimal
