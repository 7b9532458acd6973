import ConventionLint.Decimal.Natural
import ConventionLint.Mismatch

namespace ConventionLint.Json

inductive Value where
  | null
  | number (n : Nat)
  | string (text : String)
  | array (items : List Value)
  | object (fields : List (String × Value))

def escapeChar (c : Char) : List Char :=
  if c = '"' then ['\\', '"']
  else if c = '\\' then ['\\', '\\']
  else if c = '\n' then ['\\', 'n']
  else if c = '\r' then ['\\', 'r']
  else if c = '\t' then ['\\', 't']
  else if c.toNat = 8 then ['\\', 'b']
  else if c.toNat = 12 then ['\\', 'f']
  else if c.toNat < 0x20 then
    ['\\', 'u', '0', '0', Text.hexDigit (c.toNat / 16), Text.hexDigit (c.toNat % 16)]
  else [c]

def quoted (text : String) : List Char := '"' :: text.toList.flatMap escapeChar ++ ['"']

def newLine (level : Nat) : List Char := '\n' :: List.replicate (2 * level) ' '

mutual

def Value.write (level : Nat) : Value → List Char
  | .null => ['n', 'u', 'l', 'l']
  | .number n => Decimal.ofNat n
  | .string text => quoted text
  | .array [] => ['[', ']']
  | .array (item :: items) =>
    '[' :: newLine (level + 1) ++ item.write (level + 1) ++ writeItems (level + 1) items ++
      newLine level ++ [']']
  | .object [] => ['\x7b', '\x7d']
  | .object ((name, value) :: fields) =>
    '\x7b' :: newLine (level + 1) ++ quoted name ++ ':' :: ' ' :: value.write (level + 1) ++
      writeFields (level + 1) fields ++ newLine level ++ ['\x7d']

def writeItems (level : Nat) : List Value → List Char
  | [] => []
  | item :: items => ',' :: newLine level ++ item.write level ++ writeItems level items

def writeFields (level : Nat) : List (String × Value) → List Char
  | [] => []
  | (name, value) :: fields =>
    ',' :: newLine level ++ quoted name ++ ':' :: ' ' :: value.write level ++ writeFields level fields

end

def Value.pretty (value : Value) : String := String.ofList (value.write 0)

end ConventionLint.Json
