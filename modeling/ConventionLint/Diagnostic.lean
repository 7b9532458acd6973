import ConventionLint.Message
import ConventionLint.Severity
import ConventionLint.Span

namespace ConventionLint

structure Descriptor where
  id : String
  title : String
  messageFormat : String
  category : String
  defaultSeverity : Severity
  enabledByDefault : Bool
  description : String
  deriving DecidableEq, Repr

structure Diagnostic where
  id : String
  severity : Severity
  category : String
  file : String
  start : UInt32
  length : UInt32
  message : String
  deriving DecidableEq, Repr

def Descriptor.create (descriptor : Descriptor) (file : String) (span : Span) (args : List String) :
    Diagnostic where
  id := descriptor.id
  severity := descriptor.defaultSeverity
  category := descriptor.category
  file := file
  start := span.start
  length := span.length
  message := Message.format descriptor.messageFormat args

namespace Diagnostic

def span (d : Diagnostic) : Span := ⟨d.start, d.start + d.length⟩

def withSeverity (d : Diagnostic) (severity : Severity) : Diagnostic := { d with severity := severity }

def precedes (a b : Diagnostic) : Bool :=
  if a.file ≠ b.file then decide (a.file < b.file)
  else if a.start ≠ b.start then decide (a.start < b.start)
  else if a.length ≠ b.length then decide (a.length < b.length)
  else decide (a.id ≤ b.id)

/-- Sort by `precedes`; diagnostics at one place with one rule keep their order. -/
def sort (diagnostics : List Diagnostic) : List Diagnostic := diagnostics.mergeSort precedes

end Diagnostic

end ConventionLint
