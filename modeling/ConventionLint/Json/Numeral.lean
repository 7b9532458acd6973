import ConventionLint.Decimal.Double
import ConventionLint.Decimal.Natural

/-!
Numerals of JSON, and the numbers that they stand for.

A numeral without fraction and exponent is an integer if it fits a machine word, signed for a negative
one; negative zero and everything else is a double. A double is computed in two rounded steps: the
leading digits that fit a machine word, then the power of ten.
-/
namespace ConventionLint.Json

inductive Defect where
  | malformed
  | ended
  deriving DecidableEq, Repr

/-- The parts of a numeral. The fraction is empty if there is no point; an exponent has a sign, true for
minus, and digits. -/
structure Numeral where
  negative : Bool
  whole : List Char
  fraction : List Char
  exponent : Option (Bool × List Char)
  deriving DecidableEq, Repr

inductive Number where
  | integer (value : Int)
  | double (negative : Bool) (value : Decimal.Double)
  deriving DecidableEq, Repr

inductive NumeralScan where
  | done (numeral : Numeral) (rest : List Char)
  | failed (atEnd : Bool)

def NumeralScan.Within (bound : Nat) : NumeralScan → Prop
  | .done _ rest => rest.length ≤ bound
  | .failed _ => True

theorem NumeralScan.Within.mono {scan : NumeralScan} {m n : Nat} (within : scan.Within m) (le : m ≤ n) :
    scan.Within n := by
  cases scan with
  | done _ _ => exact Nat.le_trans within le
  | failed _ => trivial

namespace Numeral

def scanExponent (numeral : Numeral) (negative : Bool) (cs : List Char) : NumeralScan :=
  match cs.takeWhile Char.isDigit with
  | [] => .failed cs.isEmpty
  | digits => .done { numeral with exponent := some (negative, digits) } (cs.dropWhile Char.isDigit)

def scanTail (numeral : Numeral) : List Char → NumeralScan
  | c :: cs =>
    if c = 'e' ∨ c = 'E' then
      match cs with
      | '+' :: cs => numeral.scanExponent false cs
      | '-' :: cs => numeral.scanExponent true cs
      | cs => numeral.scanExponent false cs
    else .done numeral (c :: cs)
  | [] => .done numeral []

def scanFraction (numeral : Numeral) : List Char → NumeralScan
  | '.' :: cs =>
    match cs.takeWhile Char.isDigit with
    | [] => .failed cs.isEmpty
    | digits => { numeral with fraction := digits }.scanTail (cs.dropWhile Char.isDigit)
  | cs => numeral.scanTail cs

def scanWhole (negative : Bool) : List Char → NumeralScan
  | [] => .failed true
  | c :: cs =>
    if c = '0' then
      match cs with
      | d :: _ => if d.isDigit then .failed false else Numeral.scanFraction ⟨negative, ['0'], [], none⟩ cs
      | [] => .done ⟨negative, ['0'], [], none⟩ []
    else if c.isDigit then
      Numeral.scanFraction ⟨negative, c :: cs.takeWhile Char.isDigit, [], none⟩ (cs.dropWhile Char.isDigit)
    else .failed false

def scan : List Char → NumeralScan
  | '-' :: cs => scanWhole true cs
  | cs => scanWhole false cs

theorem length_dropDigits_le (cs : List Char) : (cs.dropWhile Char.isDigit).length ≤ cs.length :=
  (List.dropWhile_sublist _).length_le

theorem scanExponent_within (numeral : Numeral) (negative : Bool) (cs : List Char) :
    (numeral.scanExponent negative cs).Within cs.length := by
  unfold scanExponent
  split
  · trivial
  · exact length_dropDigits_le cs

theorem scanTail_within (numeral : Numeral) (cs : List Char) :
    (numeral.scanTail cs).Within cs.length := by
  unfold scanTail
  split
  · split
    · split <;>
        exact (scanExponent_within _ _ _).mono (by simp only [List.length_cons]; omega)
    · exact Nat.le_refl _
  · exact Nat.le_refl _

theorem scanFraction_within (numeral : Numeral) (cs : List Char) :
    (numeral.scanFraction cs).Within cs.length := by
  unfold scanFraction
  split
  · split
    · trivial
    · exact (scanTail_within _ _).mono (Nat.le_succ_of_le (length_dropDigits_le _))
  · exact scanTail_within numeral cs

theorem scanWhole_within (negative : Bool) (c : Char) (cs : List Char) :
    (scanWhole negative (c :: cs)).Within cs.length := by
  simp only [scanWhole]
  split
  · split
    · split
      · trivial
      · exact scanFraction_within _ _
    · exact Nat.le_refl _
  · split
    · exact (scanFraction_within _ _).mono (length_dropDigits_le cs)
    · trivial

theorem length_lt_of_scan {cs rest : List Char} {numeral : Numeral}
    (done : scan cs = .done numeral rest) : rest.length < cs.length := by
  unfold scan at done
  split at done
  · next cs =>
    cases cs with
    | nil => simp [scanWhole] at done
    | cons c cs =>
      have within := scanWhole_within true c cs
      rw [done] at within
      exact Nat.lt_succ_of_le (Nat.le_succ_of_le within)
  · cases cs with
    | nil => simp [scanWhole] at done
    | cons c cs =>
      have within := scanWhole_within false c cs
      rw [done] at within
      exact Nat.lt_succ_of_le within

def wordLimit : Nat := 18446744073709551616

def takeWord (n : Nat) : List Char → Nat × List Char
  | [] => (n, [])
  | c :: cs =>
    let next := 10 * n + Decimal.digitValue c
    if next < wordLimit then takeWord next cs else (n, c :: cs)

def divideFar : Nat → Decimal.Double → Option Decimal.Double
  | 0, d => some d
  | n + 1, d => if d.isZero then some d else (d.div (.pow10 308)).bind (divideFar n)

/-- Multiply a double by a power of ten, or none if the result is too large. A far negative power is
reached in steps. -/
def scaleByTen (d : Decimal.Double) (exponent : Int) : Option Decimal.Double :=
  if exponent < 0 then
    let steps := ((-exponent).toNat - 1) / 308
    (divideFar steps d).bind fun d => d.div (.pow10 ((-exponent).toNat - 308 * steps))
  else if exponent ≤ 308 then d.mul (.pow10 exponent.toNat)
  else if d.isZero then some d else none

/-- The digits that fit a machine word, and the power of ten that they have to be multiplied by. -/
def significand (numeral : Numeral) : Nat × Int :=
  let (n, dropped) := takeWord 0 numeral.whole
  let (n, skipped) := takeWord n numeral.fraction
  (n, (dropped.length : Int) - (numeral.fraction.length - skipped.length : Int))

def number? (numeral : Numeral) : Option Number :=
  let whole := Decimal.value numeral.whole
  if numeral.fraction.isEmpty ∧ numeral.exponent = none ∧ whole < wordLimit then
    if numeral.negative then
      if whole = 0 ∨ 9223372036854775808 < whole then (Decimal.Double.ofRatio whole 1).map (.double true)
      else some (.integer (-whole))
    else some (.integer whole)
  else
    let (n, power) := numeral.significand
    let size :=
      match numeral.exponent with
      | none => (Decimal.Double.ofRatio n 1).bind fun d => scaleByTen d power
      | some (negative, digits) =>
        let exponent := Decimal.value digits
        if 2147483648 ≤ exponent then if n ≠ 0 ∧ !negative then none else some .zero
        else
          (Decimal.Double.ofRatio n 1).bind fun d =>
            scaleByTen d (if negative then power - exponent else power + exponent)
    size.map (.double numeral.negative)

end Numeral

end ConventionLint.Json
