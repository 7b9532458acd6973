import ConventionLint.Decimal.Shortest
import ConventionLint.Text.Unprintable

namespace ConventionLint

inductive Found where
  | nothing
  | boolean (value : Bool)
  | integer (value : Int)
  | double (negative : Bool) (value : Decimal.Double)
  | infinite (negative : Bool)
  | notANumber
  | text (value : String)
  | map
  | sequence
  deriving DecidableEq, Repr

structure Wording where
  nothing : String
  layout : Decimal.Layout

namespace Text

def hexDigit (d : Nat) : Char := if d < 10 then Char.ofNat (0x30 + d) else Char.ofNat (0x57 + d)

def hex (n : Nat) : List Char :=
  if n < 16 then [hexDigit n] else hex (n / 16) ++ [hexDigit (n % 16)]

def quoteChar (c : Char) : List Char :=
  if c = '"' then ['\\', '"']
  else if c = '\\' then ['\\', '\\']
  else if c = '\n' then ['\\', 'n']
  else if c = '\r' then ['\\', 'r']
  else if c = '\t' then ['\\', 't']
  else if c.toNat = 0 then ['\\', '0']
  else if isUnprintable c then ['\\', 'u', '{'] ++ hex c.toNat ++ ['}']
  else [c]

def quote (text : String) : String :=
  String.ofList ('"' :: text.toList.flatMap quoteChar ++ ['"'])

end Text

def Found.describe (wording : Wording) : Found → String
  | nothing => wording.nothing
  | boolean value => if value then "boolean `true`" else "boolean `false`"
  | integer value => "integer `" ++ String.ofList (Decimal.ofInt value) ++ "`"
  | double negative value => "floating point `" ++ String.ofList (wording.layout.write negative value) ++ "`"
  | infinite negative => if negative then "floating point `-inf`" else "floating point `inf`"
  | notANumber => "floating point `NaN`"
  | text value => "string " ++ Text.quote value
  | map => "map"
  | sequence => "sequence"

inductive Mismatch where
  | wrongType (found : Found) (expected : String)
  | outOfRange (value : Int) (expected : String)
  | wrongLength (count : Nat) (record : String) (size : Nat)
  | missingField (name : String)
  | duplicateField (name : String)
  | unknownField (name : String) (known : List String)
  | unknownVariant (name : String) (known : List String)
  deriving DecidableEq, Repr

namespace Mismatch

def oneOf (names : List String) : String :=
  "one of " ++ ", ".intercalate (names.map fun name => "`" ++ name ++ "`")

def message (wording : Wording) : Mismatch → String
  | wrongType found expected => "invalid type: " ++ found.describe wording ++ ", expected " ++ expected
  | outOfRange value expected =>
    "invalid value: " ++ (Found.integer value).describe wording ++ ", expected " ++ expected
  | wrongLength count record size =>
    "invalid length " ++ String.ofList (Decimal.ofNat count) ++ ", expected struct " ++ record ++ " with " ++
      String.ofList (Decimal.ofNat size) ++ " elements"
  | missingField name => "missing field `" ++ name ++ "`"
  | duplicateField name => "duplicate field `" ++ name ++ "`"
  | unknownField name known => "unknown field `" ++ name ++ "`, expected " ++ oneOf known
  | unknownVariant name known => "unknown variant `" ++ name ++ "`, expected " ++ oneOf known

end Mismatch

end ConventionLint
