import ConventionLint.Text.ByteSize

/-!
Lines of a source text, and positions in it.

A text is cut into lines, each with the terminator that ends it. Offsets count bytes of the UTF-8
form; columns count characters. The lines put together again are the text, so a position is found
by walking over the lines and subtracting their sizes.
-/
namespace ConventionLint

inductive Terminator where
  | lineFeed
  | carriageReturn
  | both
  deriving DecidableEq, Repr

def Terminator.chars : Terminator → List Char
  | lineFeed => ['\n']
  | carriageReturn => ['\r']
  | both => ['\r', '\n']

/-- The number of characters that fill exactly the first `n` bytes, if `n` is on the boundary of a
character. -/
def charsIn : Nat → List Char → Option Nat
  | 0, _ => some 0
  | _ + 1, [] => none
  | n + 1, c :: cs => if c.utf8Size ≤ n + 1 then (charsIn (n + 1 - c.utf8Size) cs).map (· + 1) else none

structure Line where
  text : List Char
  ending : Option Terminator
  deriving DecidableEq, Repr

namespace Line

def content (line : Line) : List Char := line.text ++ (line.ending.map Terminator.chars).getD []

def size (line : Line) : Nat := byteSize line.content

/-- The column of a byte of the line; zero for a byte inside a character. -/
def column (line : Line) (offset : Nat) : Nat := (charsIn offset line.content).getD 0

def extend (c : Char) : List Line → List Line
  | [] => [⟨[c], none⟩]
  | line :: lines => { line with text := c :: line.text } :: lines

def split : List Char → List Line
  | [] => [⟨[], none⟩]
  | '\r' :: '\n' :: cs => ⟨[], some .both⟩ :: split cs
  | '\r' :: cs => ⟨[], some .carriageReturn⟩ :: split cs
  | '\n' :: cs => ⟨[], some .lineFeed⟩ :: split cs
  | c :: cs => extend c (split cs)

end Line

structure Position where
  line : Nat
  column : Nat
  deriving DecidableEq, Repr

structure LineMap where
  lines : List Line
  deriving DecidableEq, Repr

namespace LineMap

def ofText (text : String) : LineMap := ⟨Line.split text.toList⟩

def lineCount (map : LineMap) : Nat := map.lines.length

def lineText (map : LineMap) (line : Nat) : Option String :=
  map.lines[line]?.map fun found => String.ofList found.text

/-- The last line that starts at or before the offset, and the column in it. An offset past the end
stands for the end. -/
def locate : List Line → Nat → Position
  | [], _ => ⟨0, 0⟩
  | [line], offset => ⟨0, line.column (min offset line.size)⟩
  | line :: next :: lines, offset =>
    if offset < line.size then ⟨0, line.column offset⟩
    else
      let found := locate (next :: lines) (offset - line.size)
      ⟨found.line + 1, found.column⟩

def position (map : LineMap) (offset : Nat) : Position := locate map.lines offset

end LineMap

end ConventionLint
