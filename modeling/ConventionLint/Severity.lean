namespace ConventionLint

inductive Severity where
  | hidden
  | info
  | warning
  | error
  deriving DecidableEq, Repr, Inhabited

def Severity.label : Severity → String
  | hidden => "hidden"
  | info => "info"
  | warning => "warning"
  | error => "error"

end ConventionLint
