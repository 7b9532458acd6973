import ConventionLint.Dispatch
import ConventionLint.Program.Walk
import ConventionLint.RuleMap

/-!
Analyzers and the host that runs them.

The host walks each file once and hands every operation to the actions that the enabled analyzers
have registered for its kind. What they report is filtered and graded by the severities of the rules,
and shown in the order of `Diagnostic.sort`.
-/
namespace ConventionLint

structure Site where
  program : Program
  file : SourceFile
  id : OperationId
  operation : Operation

abbrev Action := Site → List Diagnostic

/-- An analyzer: the diagnostics it supports, and its actions with the kinds that they are for. The
actions are given once and for all: registering them does not look at the table that is being built,
with what other analyzers have put there. -/
structure Analyzer where
  descriptors : List Descriptor
  actions : List (Action × List OperationKind)

def Analyzer.register (analyzer : Analyzer) (table : Dispatch Action) : Dispatch Action :=
  analyzer.actions.foldl (fun table entry => table.register entry.1 entry.2) table

def Analyzer.isEnabled (analyzer : Analyzer) (rules : RuleMap) : Bool :=
  analyzer.descriptors.any fun descriptor => (rules.effective descriptor).isSome

structure Host where
  analyzers : List Analyzer
  rules : RuleMap

namespace Host

def table (host : Host) : Dispatch Action :=
  (host.analyzers.filter fun analyzer => analyzer.isEnabled host.rules).foldl
    (fun table analyzer => analyzer.register table) .empty

def descriptors (host : Host) : List Descriptor := host.analyzers.flatMap Analyzer.descriptors

/-- The descriptor of an id. The last analyzer that supports the id decides. -/
def descriptor? (host : Host) (id : String) : Option Descriptor :=
  host.descriptors.reverse.find? fun descriptor => descriptor.id = id

def supported (host : Host) : List Descriptor :=
  host.descriptors.mergeSort fun a b => decide (a.id ≤ b.id)

/-- Grade a diagnostic by the severities of the rules, or drop it. An id that nobody supports is left as
it is. -/
def grade (host : Host) (diagnostic : Diagnostic) : Option Diagnostic :=
  match host.descriptor? diagnostic.id with
  | none => some diagnostic
  | some descriptor => (host.rules.effective descriptor).map diagnostic.withSeverity

def report (table : Dispatch Action) (program : Program) (file : SourceFile) : List Diagnostic :=
  file.walk.flatMap fun (id, operation) =>
    (table.actionsFor operation.kind).flatMap fun action => action ⟨program, file, id, operation⟩

def analyzeFile (host : Host) (program : Program) (file : SourceFile) : List Diagnostic :=
  (report host.table program file).filterMap host.grade

def analyze (host : Host) (program : Program) : List Diagnostic :=
  if host.table.isEmpty then [] else Diagnostic.sort (program.files.flatMap (host.analyzeFile program))

end Host

end ConventionLint
