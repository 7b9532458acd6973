/-!
Texts as the system has them.

The names of files and the arguments of a command are bytes. Most are the bytes of a text, but they
need not be; what is not a text is shown with a mark in place of the bytes that belong to no character.
-/
namespace ConventionLint

abbrev Bytes := List UInt8

namespace Bytes

def ofText (text : String) : Bytes := text.toList.flatMap String.utf8EncodeChar

instance : Coe String Bytes := ⟨ofText⟩

instance : Coe (List String) (List Bytes) := ⟨List.map ofText⟩

def slash : UInt8 := 0x2F

def dot : UInt8 := 0x2E

def le (first second : Bytes) : Bool := !List.lex second first fun a b => decide (a < b)

def text? (bytes : Bytes) : Option String := String.fromUTF8? bytes.toByteArray

/-- A character that has begun: its bits so far, the bounds of the next byte, and how many bytes follow
that one. -/
structure Begun where
  bits : Nat
  low : Nat
  high : Nat
  after : Nat

def mark : Char := '\uFFFD'

def startChar (b : Nat) : List Char × Option Begun :=
  if b < 0x80 then ([Char.ofNat b], none)
  else if b < 0xC2 then ([mark], none)
  else if b < 0xE0 then ([], some ⟨b - 0xC0, 0x80, 0xBF, 0⟩)
  else if b < 0xF0 then
    ([], some ⟨b - 0xE0, if b = 0xE0 then 0xA0 else 0x80, if b = 0xED then 0x9F else 0xBF, 1⟩)
  else if b < 0xF5 then
    ([], some ⟨b - 0xF0, if b = 0xF0 then 0x90 else 0x80, if b = 0xF4 then 0x8F else 0xBF, 2⟩)
  else ([mark], none)

/-- Take a byte. One that cannot go on with a character ends it, and one mark stands for the bytes
before. -/
def step (begun : Option Begun) (b : Nat) : List Char × Option Begun :=
  match begun with
  | none => startChar b
  | some ⟨bits, low, high, after⟩ =>
    if low ≤ b ∧ b ≤ high then
      match after with
      | 0 => ([Char.ofNat (64 * bits + (b - 0x80))], none)
      | after + 1 => ([], some ⟨64 * bits + (b - 0x80), 0x80, 0xBF, after⟩)
    else
      let (shown, begun) := startChar b
      (mark :: shown, begun)

def marked (begun : Option Begun) : Bytes → List Char
  | [] => if begun.isSome then [mark] else []
  | b :: bytes =>
    let (shown, begun) := step begun b.toNat
    shown ++ marked begun bytes

def shown (bytes : Bytes) : String := bytes.text?.getD (String.ofList (marked none bytes))

end Bytes

end ConventionLint
