import ConventionLint.Decimal.Natural
import ConventionLint.Diagnostic
import ConventionLint.LineMap
import ConventionLint.Report.Styled

namespace ConventionLint.Report

structure Sources where
  entries : List (String × LineMap)

namespace Sources

def empty : Sources := ⟨[]⟩

def add (sources : Sources) (file text : String) : Sources :=
  ⟨(file, LineMap.ofText text) :: sources.entries⟩

def addAll (sources : Sources) (texts : List (String × String)) : Sources :=
  texts.foldl (fun sources entry => sources.add entry.1 entry.2) sources

def get? (sources : Sources) (file : String) : Option LineMap := sources.entries.lookup file

end Sources

def cells (c : Char) : Nat := if c = '\t' then 4 else 1

/-- Blanks up to the column `start`, then marks up to the column `stop` or the end of the line. -/
def marks (line : List Char) (start stop : Nat) : List Char :=
  (line.take start |>.take stop).flatMap (fun c => List.replicate (cells c) ' ') ++
    ((line.take stop).drop start).flatMap (fun c => List.replicate (cells c) '~')

def underline (line : List Char) (start stop : Nat) : List Char :=
  if start < stop ∧ start < line.length then marks line start stop else marks line start stop ++ ['~']

def padLeft (width : Nat) (text : List Char) : List Char :=
  List.replicate (width - text.length) ' ' ++ text

def padRight (width : Nat) (text : List Char) : List Char :=
  text ++ List.replicate (width - text.length) ' '

/-- The offset after a diagnostic; offsets end at the largest word. -/
def endOffset (d : Diagnostic) : Nat := min (d.start.toNat + d.length.toNat) 4294967295

/-- The line that a diagnostic starts on, and the marks below it. A diagnostic of length zero has no
snippet. -/
def snippet (map : LineMap) (d : Diagnostic) : Styled :=
  if d.length = 0 then []
  else
    let start := map.position d.start.toNat
    let stop := map.position (endOffset d)
    match map.lineText start.line with
    | none => []
    | some text =>
      let line := text.toList
      let stopColumn := if stop.line = start.line then stop.column else line.length
      [⟨'\n' :: ' ' :: ' ' :: padLeft 3 (Decimal.ofNat (start.line + 1)) ++ ' ' :: ' ' :: ' ' :: line ++
          '\n' :: List.replicate 8 ' ', none⟩,
        ⟨underline line start.column stopColumn, some .underline⟩]

end ConventionLint.Report
