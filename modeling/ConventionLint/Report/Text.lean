import ConventionLint.Report.Snippet

namespace ConventionLint.Report

def severityStyle : Severity → Style
  | .hidden => .hidden
  | .info => .info
  | .warning => .warning
  | .error => .error

/-- Where a diagnostic is: its file, with line and column if the text of the file is known. -/
def place (sources : Sources) (d : Diagnostic) : List Char :=
  match sources.get? d.file with
  | some map =>
    let start := map.position d.start.toNat
    d.file.toList ++ ':' :: Decimal.ofNat (start.line + 1) ++ ':' :: Decimal.ofNat (start.column + 1)
  | none => if d.file.isEmpty then "<unknown>".toList else d.file.toList

def diagnostic (sources : Sources) (d : Diagnostic) : Styled :=
  [⟨place sources d ++ [' ', '-', ' '], none⟩, ⟨d.severity.label.toList, some (severityStyle d.severity)⟩,
    ⟨[' '], none⟩, ⟨d.id.toList, some .rule⟩, ⟨':' :: ' ' :: d.message.toList, none⟩] ++
    match sources.get? d.file with
    | some map => snippet map d
    | none => []

def diagnostics (sources : Sources) : List Diagnostic → Styled
  | [] => []
  | [d] => diagnostic sources d
  | d :: next :: rest => diagnostic sources d ++ ⟨['\n'], none⟩ :: diagnostics sources (next :: rest)

def rule (descriptor : Descriptor) : Styled :=
  let severity := if descriptor.enabledByDefault then descriptor.defaultSeverity.label else "off"
  [⟨descriptor.id.toList, some .rule⟩,
    ⟨' ' :: ' ' :: padRight 7 severity.toList ++ ' ' :: ' ' :: padRight 10 descriptor.category.toList ++
      ' ' :: ' ' :: descriptor.title.toList ++ ['\n'], none⟩]

def rules (descriptors : List Descriptor) : Styled := descriptors.flatMap rule

def counted (n : Nat) (noun : String) : String :=
  if n = 1 then "1 " ++ noun else String.ofList (Decimal.ofNat n) ++ " " ++ noun ++ "s"

structure Tally where
  errors : Nat
  others : Nat
  deriving DecidableEq, Repr

def Tally.ofList (diagnostics : List Diagnostic) : Tally where
  errors := diagnostics.countP fun d => d.severity = .error
  others := diagnostics.countP fun d => d.severity ≠ .error

def summary (diagnostics : List Diagnostic) : Option String :=
  let tally := Tally.ofList diagnostics
  if tally.errors + tally.others = 0 then none
  else
    let others := if tally.others = 0 then "" else " and " ++ counted tally.others "other diagnostic"
    some ("Found " ++ counted tally.errors "error" ++ others ++ ".")

end ConventionLint.Report
