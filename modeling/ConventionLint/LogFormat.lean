import ConventionLint.Text.WhiteSpace

namespace ConventionLint

inductive LogFormat where
  | text
  | tree
  | json
  deriving DecidableEq, Repr, Inhabited

/-- The format of a name; everything unknown stands for plain text. -/
def LogFormat.parse (name : String) : LogFormat :=
  let name := Text.foldName name
  if name = "tree" then .tree else if name = "json" then .json else .text

end ConventionLint
