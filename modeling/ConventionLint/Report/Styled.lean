/-!
Styled text: fragments that may have a style, and the two ways to write them.

Plain writing forgets the styles. Writing for a terminal puts the code of its style before a fragment
and a reset after it; a reset inside the fragment is followed by the code again.
-/
namespace ConventionLint.Report

inductive Style where
  | error
  | warning
  | info
  | hidden
  | rule
  | underline
  deriving DecidableEq, Repr

def Style.code : Style → List Char
  | error => ['1', ';', '3', '1']
  | warning => ['1', ';', '3', '3']
  | info => ['1', ';', '3', '4']
  | hidden => ['2']
  | rule => ['9', '4']
  | underline => ['3', '1']

def escape : Char := '\x1b'

def control (code : List Char) : List Char := escape :: '[' :: code ++ ['m']

def reset : List Char := control ['0']

structure Fragment where
  text : List Char
  style : Option Style := none
  deriving DecidableEq, Repr

abbrev Styled := List Fragment

/-- Set a style again after every reset. -/
def restyle (code : List Char) : List Char → List Char
  | '\x1b' :: '[' :: '0' :: 'm' :: cs => reset ++ control code ++ restyle code cs
  | c :: cs => c :: restyle code cs
  | [] => []

def Fragment.colored (fragment : Fragment) : List Char :=
  match fragment.style with
  | none => fragment.text
  | some style => control style.code ++ restyle style.code fragment.text ++ reset

namespace Styled

def plain (text : Styled) : List Char := text.flatMap Fragment.text

def colored (text : Styled) : List Char := text.flatMap Fragment.colored

def write (color : Bool) (text : Styled) : String :=
  String.ofList (if color then text.colored else text.plain)

end Styled

end ConventionLint.Report
