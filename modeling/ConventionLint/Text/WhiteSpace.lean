namespace ConventionLint.Text

def isWhiteSpace (c : Char) : Bool :=
  let n := c.toNat
  (0x09 ≤ n && n ≤ 0x0D) || n == 0x20 || n == 0x85 || n == 0xA0 || n == 0x1680 ||
    (0x2000 ≤ n && n ≤ 0x200A) || n == 0x2028 || n == 0x2029 || n == 0x202F || n == 0x205F || n == 0x3000

def trimStart (cs : List Char) : List Char := cs.dropWhile isWhiteSpace

def trimEnd (cs : List Char) : List Char := (cs.reverse.dropWhile isWhiteSpace).reverse

def trim (cs : List Char) : List Char := trimEnd (trimStart cs)

/-- A name as it is compared: trimmed, and with small letters for the ASCII capitals. No name of this
project has a letter that is the small form of any other character. -/
def foldName (text : String) : String := String.ofList ((trim text.toList).map Char.toLower)

end ConventionLint.Text
