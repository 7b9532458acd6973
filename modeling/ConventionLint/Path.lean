import ConventionLint.Text.Bytes

namespace ConventionLint

structure Path where
  ofBytes ::
  bytes : Bytes
  deriving DecidableEq, Repr, Inhabited

namespace Path

open Bytes (slash dot)

def mk (text : String) : Path := ⟨text⟩

def text (path : Path) : String := path.bytes.shown

inductive Component where
  | root
  | here
  | up
  | name (bytes : Bytes)
  deriving DecidableEq, Repr

def split : Bytes → List Bytes
  | [] => [[]]
  | b :: bytes =>
    if b = slash then [] :: split bytes
    else
      match split bytes with
      | [] => [[b]]
      | segment :: segments => (b :: segment) :: segments

def segments (path : Path) : List Bytes := split path.bytes

def isAbsolute (path : Path) : Bool := path.bytes.head? == some slash

/-- Pieces that say nothing, unless they come first. -/
def isIdle (segment : Bytes) : Bool := segment == [] || segment == [dot]

def upward : Bytes := [dot, dot]

def component? (segment : Bytes) : Option Component :=
  if isIdle segment then none else if segment = upward then some .up else some (.name segment)

def components (path : Path) : List Component :=
  match path.segments with
  | [] => []
  | first :: rest =>
    let lead :=
      if path.isAbsolute then some .root else if first = [dot] then some .here else component? first
    lead.toList ++ rest.filterMap component?

/-- Numbers that order components: the root, a leading dot, two dots, and then names by their bytes. -/
def Component.key : Component → List Nat
  | root => [0]
  | here => [1]
  | up => [2]
  | name bytes => 3 :: bytes.map UInt8.toNat

def key (path : Path) : List (List Nat) := path.components.map Component.key

def le (a b : Path) : Bool :=
  !List.lex b.key a.key fun second first => List.lex second first fun m n => decide (m < n)

def same (a b : Path) : Bool := decide (a.key = b.key)

def join (base path : Path) : Path :=
  if path.isAbsolute ∨ base.bytes.isEmpty then path
  else if base.bytes.getLast? = some slash then ⟨base.bytes ++ path.bytes⟩
  else ⟨base.bytes ++ slash :: path.bytes⟩

/-- Leave out the pieces at the end that say nothing. The first piece stays. -/
def trim : List Bytes → List Bytes
  | [] => []
  | first :: rest => first :: (rest.reverse.dropWhile isIdle).reverse

def ofSegments (segments : List Bytes) : Path :=
  if segments = [[]] then ⟨[slash]⟩ else ⟨[slash].intercalate segments⟩

def parent? (path : Path) : Option Path :=
  match trim path.segments with
  | [] => none
  | [first] => if first = [] then none else some ⟨[]⟩
  | segments => some (ofSegments (trim segments.dropLast))

def fileName? (path : Path) : Option Bytes :=
  match path.components.getLast? with
  | some (.name bytes) => some bytes
  | _ => none

def hasExtension (path : Path) : Bool :=
  match path.fileName? with
  | none => false
  | some name => (name.drop 1).contains dot

def withExtension (path : Path) (extension : Bytes) : Path :=
  if path.hasExtension ∨ path.fileName? = none then path
  else ⟨[slash].intercalate (trim path.segments) ++ dot :: extension⟩

end Path

end ConventionLint
