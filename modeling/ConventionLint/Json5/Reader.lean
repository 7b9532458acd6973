import ConventionLint.Decimal.Double
import ConventionLint.Json5.Document
import ConventionLint.Mismatch

namespace ConventionLint.Json5

open Json (hexValue? isLead isTrail pairChar)

inductive DataError where
  | mismatch (mismatch : Mismatch)
  | badHex
  | badInteger
  | badNumber
  | tooLarge
  | missingTrail
  | unexpectedTrail
  | emptyObject
  | noChoice
  deriving DecidableEq, Repr

def wording : Wording where
  nothing := "unit value"
  layout := ⟨.up, none⟩

def DataError.message : DataError → String
  | mismatch m => m.message wording
  | badHex => "error parsing hex"
  | badInteger => "error parsing integer"
  | badNumber => "error parsing number"
  | tooLarge => "error parsing number: too large"
  | missingTrail => "missing unicode trail surrogate"
  | unexpectedTrail => "unexpected unicode trail surrogate"
  | emptyObject => "expected a nonempty object"
  | noChoice => "expected a string or an object"

def hexNumber? (digits : List Char) : Option Nat :=
  digits.foldlM (fun n c => (hexValue? c).map (16 * n + ·)) 0

def Component.code? : Component → Option Nat
  | .char source _ => hexNumber? source
  | .code value => some value

/-- The text that components stand for. What follows the first half of a pair is taken for digits. -/
def textOf : List Component → Except DataError (List Char)
  | [] => .ok []
  | .char _ value :: components => (textOf components).map (value :: ·)
  | .code n :: components =>
    if isTrail n then .error .unexpectedTrail
    else if isLead n then
      match components with
      | [] => .error .missingTrail
      | component :: rest =>
        match component.code? with
        | none => .error .badHex
        | some m => if isTrail m then (textOf rest).map (pairChar n m :: ·) else .error .unexpectedTrail
    else (textOf components).map (Char.ofNat n :: ·)

def double? (negative : Bool) (text : List Char) : Except DataError Found :=
  let whole := text.takeWhile Char.isDigit
  let rest := text.dropWhile Char.isDigit
  let (places, rest) := match rest with
    | '.' :: rest => (rest.takeWhile Char.isDigit, rest.dropWhile Char.isDigit)
    | rest => ([], rest)
  let exponent : Option Int := match rest with
    | [] => some 0
    | c :: rest =>
      if c = 'e' ∨ c = 'E' then
        match rest with
        | '-' :: digits => some (-(Decimal.value digits : Int))
        | '+' :: digits => some (Decimal.value digits)
        | digits => some (Decimal.value digits)
      else none
  let digits := whole ++ places
  match exponent with
  | none => .error .badNumber
  | some exponent =>
    match Decimal.Double.ofDecimal (Decimal.value digits) digits.length (exponent - places.length) with
    | none => .error .tooLarge
    | some d => .ok (.double negative d)

/-- Whether a number is an integer. A sign before a special number or before hexadecimal digits is not
looked through. -/
def isInteger (text : List Char) : Bool :=
  let special := [infinityText, '-' :: infinityText, notANumberText, '-' :: notANumberText].contains text
  let hex := match text with
    | '0' :: x :: _ :: _ => x == 'x' || x == 'X'
    | _ => false
  !text.contains '.' && !special && (hex || !(text.contains 'e' || text.contains 'E'))

def integer? (text : List Char) : Except DataError Found :=
  let decimal (negative : Bool) (digits : List Char) : Except DataError Found :=
    let size := Decimal.value digits
    let limit := if negative then 9223372036854775808 else 9223372036854775807
    if digits.all Char.isDigit ∧ size ≤ limit then
      .ok (.integer (if negative then -size else size))
    else .error .badInteger
  match text with
  | '-' :: digits => decimal true digits
  | '+' :: digits => decimal false digits
  | '0' :: x :: digits =>
    if x = 'x' ∨ x = 'X' then
      match hexNumber? digits with
      | some n => if n < 4294967296 then .ok (.integer n) else .error .badHex
      | none => .error .badHex
    else decimal false text
  | digits => decimal false digits

def number? (text : List Char) : Except DataError Found :=
  if isInteger text then integer? text
  else if text = infinityText then .ok (.infinite false)
  else if text = '-' :: infinityText then .ok (.infinite true)
  else if text = notANumberText ∨ text = '-' :: notANumberText then .ok .notANumber
  else
    match text with
    | '-' :: text => double? true text
    | '+' :: text => double? false text
    | text => double? false text

namespace Document

def found : Document → Except DataError Found
  | .null => .ok .nothing
  | .bool value => .ok (.boolean value)
  | .number text => number? text
  | .string components => (textOf components).map fun text => .text (String.ofList text)
  | .array _ => .ok .sequence
  | .object _ => .ok .map

def refuse {α : Type} (document : Document) (expected : String) : Except DataError α :=
  document.found.bind fun found => .error (.mismatch (.wrongType found expected))

def text : Document → Except DataError String
  | .string components => (textOf components).map String.ofList
  | document => document.refuse "a string"

def nullable {α : Type} (read : Document → Except DataError α) : Document → Except DataError (Option α)
  | .null => .ok none
  | document => (read document).map some

def list {α : Type} (read : Document → Except DataError α) : Document → Except DataError (List α)
  | .array items => items.mapM read
  | document => document.refuse "a sequence"

end Document

end ConventionLint.Json5
