import ConventionLint.Host
import ConventionLint.Proofs.Diagnostic.Order
import ConventionLint.Proofs.Dispatch.Runs

/-!
Which analyzers are registered does not change what a host shows.

A rule that is off is switched off twice: its analyzer is not registered if all of its rules are off,
and what is reported of it is dropped by `Host.grade`. Main statement: the second alone would do, even
if it came last, after sorting.
-/
namespace ConventionLint

theorem flatMap_filter_of_silent {α β : Type} (keep : α → Bool) (f : α → List β) (list : List α)
    (silent : ∀ a ∈ list, keep a = false → f a = []) :
    (list.filter keep).flatMap f = list.flatMap f := by
  induction list with
  | nil => rfl
  | cons a list ih =>
      have rest := ih fun b member => silent b (List.mem_cons_of_mem a member)
      cases kept : keep a with
      | true => rw [List.filter_cons_of_pos kept, List.flatMap_cons, List.flatMap_cons, rest]
      | false =>
          rw [List.filter_cons_of_neg (Bool.not_eq_true _ ▸ kept), List.flatMap_cons,
            silent a List.mem_cons_self kept, rest, List.nil_append]

namespace Analyzer

def actionsFor (analyzer : Analyzer) (kind : OperationKind) : List Action :=
  analyzer.actions.flatMap fun entry => List.replicate (entry.2.count kind) entry.1

def reportAt (analyzer : Analyzer) (site : Site) : List Diagnostic :=
  (analyzer.actionsFor site.operation.kind).flatMap fun action => action site

/-- Whatever the actions report has the id of a descriptor of the analyzer. -/
def ReportsOwn (analyzer : Analyzer) : Prop :=
  ∀ entry ∈ analyzer.actions, ∀ site, ∀ diagnostic ∈ entry.1 site,
    ∃ descriptor ∈ analyzer.descriptors, descriptor.id = diagnostic.id

theorem exists_descriptor_of_reportAt (analyzer : Analyzer) (own : analyzer.ReportsOwn)
    (site : Site) (diagnostic : Diagnostic) (reported : diagnostic ∈ analyzer.reportAt site) :
    ∃ descriptor ∈ analyzer.descriptors, descriptor.id = diagnostic.id := by
  obtain ⟨action, taken, inside⟩ := List.mem_flatMap.mp reported
  obtain ⟨entry, listed, copy⟩ := List.mem_flatMap.mp taken
  rw [List.eq_of_mem_replicate copy] at inside
  exact own entry listed site diagnostic inside

end Analyzer

namespace Host

def registerAll (analyzers : List Analyzer) : Dispatch Action :=
  analyzers.foldl (fun table analyzer => analyzer.register table) .empty

theorem registerAll_eq_registerEach (analyzers : List Analyzer) :
    registerAll analyzers = Dispatch.empty.registerEach (analyzers.flatMap Analyzer.actions) := by
  rw [Dispatch.registerEach, List.foldl_flatMap]
  rfl

theorem actionsFor_registerAll (analyzers : List Analyzer) (kind : OperationKind) :
    (registerAll analyzers).actionsFor kind =
      analyzers.flatMap fun analyzer => analyzer.actionsFor kind := by
  rw [registerAll_eq_registerEach, Dispatch.actionsFor_registerEach, List.flatMap_assoc]
  rfl

theorem report_registerAll (analyzers : List Analyzer) (program : Program) (file : SourceFile) :
    report (registerAll analyzers) program file =
      file.walk.flatMap fun visit => analyzers.flatMap fun analyzer =>
        analyzer.reportAt ⟨program, file, visit.1, visit.2⟩ := by
  apply List.flatMap_congr
  rintro ⟨id, operation⟩ _
  simp only [actionsFor_registerAll, List.flatMap_assoc]
  rfl

theorem analyze_eq_sort (host : Host) (program : Program) :
    host.analyze program = Diagnostic.sort (program.files.flatMap (host.analyzeFile program)) := by
  unfold analyze
  split
  · next empty =>
      have silent : program.files.flatMap (host.analyzeFile program) = [] := by
        apply List.flatMap_eq_nil_iff.mpr
        intro file _
        simp [analyzeFile, report, host.table.actionsFor_of_isEmpty empty]
      rw [silent, Diagnostic.sort, List.mergeSort_nil]
  · rfl

/-- Descriptors with the same id are the same. -/
def Coherent (host : Host) : Prop :=
  ∀ first ∈ host.descriptors, ∀ second ∈ host.descriptors, first.id = second.id → first = second

def rawDiagnostics (host : Host) (program : Program) : List Diagnostic :=
  program.files.flatMap (report (registerAll host.analyzers) program)

def settle (host : Host) (diagnostic : Diagnostic) : Option Diagnostic :=
  match host.descriptors.find? fun descriptor => descriptor.id = diagnostic.id with
  | none => some diagnostic
  | some descriptor =>
    match host.rules.effective descriptor with
    | none => none
    | some severity => some { diagnostic with severity := severity }

theorem descriptor_eq_some (host : Host) (coherent : host.Coherent) (descriptor : Descriptor)
    (listed : descriptor ∈ host.descriptors) :
    host.descriptor? descriptor.id = some descriptor := by
  cases found : host.descriptor? descriptor.id with
  | none =>
      have missing := List.find?_eq_none.mp found descriptor (List.mem_reverse.mpr listed)
      simp at missing
  | some last =>
      have same : last.id = descriptor.id := by simpa using List.find?_some found
      have inside := List.mem_reverse.mp (List.mem_of_find?_eq_some found)
      rw [coherent last inside descriptor listed same]

theorem grade_eq_settle (host : Host) (coherent : host.Coherent) : host.grade = host.settle := by
  funext diagnostic
  cases found : host.descriptors.find? fun descriptor => descriptor.id = diagnostic.id with
  | none =>
      have absent : host.descriptor? diagnostic.id = none := by
        rw [descriptor?, List.find?_eq_none] at *
        simpa using found
      simp only [grade, settle, absent, found]
  | some descriptor =>
      have same : descriptor.id = diagnostic.id := by simpa using List.find?_some found
      have listed := List.mem_of_find?_eq_some found
      have known := host.descriptor_eq_some coherent descriptor listed
      rw [same] at known
      simp only [grade, settle, known, found]
      cases host.rules.effective descriptor with
      | none => rfl
      | some severity => rfl

theorem key_of_grade (host : Host) (d graded : Diagnostic) (kept : host.grade d = some graded) :
    graded.key = d.key := by
  unfold grade at kept
  split at kept
  · cases kept
    rfl
  · obtain ⟨severity, _, rfl⟩ := Option.map_eq_some_iff.mp kept
    rfl

/-- Of an analyzer that is not enabled nothing passes the grading. -/
theorem grade_reportAt_of_disabled (host : Host) (coherent : host.Coherent) (analyzer : Analyzer)
    (listed : analyzer ∈ host.analyzers) (own : analyzer.ReportsOwn)
    (disabled : analyzer.isEnabled host.rules = false) (site : Site) :
    (analyzer.reportAt site).filterMap host.grade = [] := by
  apply List.filterMap_eq_nil_iff.mpr
  intro diagnostic reported
  obtain ⟨descriptor, supported, same⟩ :=
    analyzer.exists_descriptor_of_reportAt own site diagnostic reported
  have off : host.rules.effective descriptor = none := by
    have none := List.any_eq_false.mp disabled descriptor supported
    simpa using none
  have known := host.descriptor_eq_some coherent descriptor
    (List.mem_flatMap.mpr ⟨analyzer, listed, supported⟩)
  rw [same] at known
  simp [grade, known, off]

theorem analyzeFile_eq_graded (host : Host)
    (own : ∀ analyzer ∈ host.analyzers, analyzer.ReportsOwn) (coherent : host.Coherent)
    (program : Program) (file : SourceFile) :
    host.analyzeFile program file =
      (report (registerAll host.analyzers) program file).filterMap host.grade := by
  have enabledOnly : host.analyzeFile program file =
      (report (registerAll (host.analyzers.filter fun analyzer => analyzer.isEnabled host.rules))
        program file).filterMap host.grade := rfl
  rw [enabledOnly, report_registerAll, report_registerAll, List.filterMap_flatMap,
    List.filterMap_flatMap]
  apply List.flatMap_congr
  intro visit _
  rw [List.filterMap_flatMap, List.filterMap_flatMap]
  -- The analyzers that are left out contribute nothing, so the others keep their order.
  apply flatMap_filter_of_silent
  intro analyzer listed disabled
  exact host.grade_reportAt_of_disabled coherent analyzer listed (own analyzer listed) disabled _

/-- Not registering an analyzer whose rules are all off is only an optimisation. If the analyzers
report their own rules, and rules with one id are one rule, then the host shows what one gets by
registering all of them, sorting the raw diagnostics, and then dropping those of rules that are off
and grading the others. -/
theorem analyze_eq_settled (host : Host)
    (own : ∀ analyzer ∈ host.analyzers, analyzer.ReportsOwn) (coherent : host.Coherent)
    (program : Program) :
    host.analyze program =
      (Diagnostic.sort (host.rawDiagnostics program)).filterMap host.settle := by
  have files : program.files.flatMap (host.analyzeFile program) =
      (host.rawDiagnostics program).filterMap host.grade := by
    rw [rawDiagnostics, List.filterMap_flatMap]
    apply List.flatMap_congr
    intro file _
    exact host.analyzeFile_eq_graded own coherent program file
  rw [analyze_eq_sort, files, Diagnostic.sort_filterMap host.grade host.key_of_grade,
    host.grade_eq_settle coherent]

def mixedRule (id : String) (enabled : Bool) : Descriptor where
  id := id
  title := ""
  messageFormat := ""
  category := "Mixed"
  defaultSeverity := .warning
  enabledByDefault := enabled
  description := ""

def mixed : Host where
  analyzers :=
    [⟨[mixedRule "A" false],
        [(fun site => [(mixedRule "A" false).create site.file.name site.operation.span []],
          [.literal, .block])]⟩,
      ⟨[mixedRule "B" true, mixedRule "C" false],
        [(fun site => [(mixedRule "C" false).create site.file.name site.operation.span [],
            (mixedRule "B" true).create site.file.name site.operation.span []],
          [.literal, .literal])]⟩]
  rules := .empty

def mixedProgram : Program where
  files := [{ name := "mixed", operations := #[⟨.literal, .literal, ⟨1, 2⟩, [], .absent⟩] }]

theorem mixed_analyze :
    (∀ analyzer ∈ mixed.analyzers, analyzer.ReportsOwn) ∧ mixed.Coherent ∧
      mixed.analyze mixedProgram =
        (Diagnostic.sort (mixed.rawDiagnostics mixedProgram)).filterMap mixed.settle := by
  have own : ∀ analyzer ∈ mixed.analyzers, analyzer.ReportsOwn := by
    intro analyzer listed entry action site diagnostic reported
    simp only [mixed, List.mem_cons, List.not_mem_nil, or_false] at listed
    rcases listed with rfl | rfl
    · simp only [List.mem_singleton] at action
      subst action
      simp only [List.mem_singleton] at reported
      exact ⟨mixedRule "A" false, by simp, by rw [reported]; rfl⟩
    · simp only [List.mem_singleton] at action
      subst action
      simp only [List.mem_cons, List.not_mem_nil, or_false] at reported
      rcases reported with rfl | rfl
      · exact ⟨mixedRule "C" false, by simp, rfl⟩
      · exact ⟨mixedRule "B" true, by simp, rfl⟩
  have coherent : mixed.Coherent := by
    unfold Coherent
    decide
  exact ⟨own, coherent, mixed.analyze_eq_settled own coherent mixedProgram⟩

end Host

end ConventionLint
