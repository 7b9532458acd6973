import ConventionLint.Proofs.Host.Registration
import ConventionLint.Rules.ImmutableByConvention

namespace ConventionLint

/-- The actions of the analyzer do not look at other files, and report in their own. -/
structure Analyzer.Confined (analyzer : Analyzer) : Prop where
  blind : ∀ entry ∈ analyzer.actions, ∀ program files file id operation,
    entry.1 ⟨{ program with files := files }, file, id, operation⟩ =
      entry.1 ⟨program, file, id, operation⟩
  placed : ∀ entry ∈ analyzer.actions, ∀ site, ∀ diagnostic ∈ entry.1 site,
    diagnostic.file = site.file.name

theorem ImmutableByConvention.confined : ImmutableByConvention.analyzer.Confined := by
  constructor
  · intro entry listed program files file id operation
    rw [List.mem_singleton.mp listed]
    rfl
  · intro entry listed site diagnostic reported
    rw [List.mem_singleton.mp listed] at reported
    simp only [ImmutableByConvention.check] at reported
    split at reported
    · cases reported
    · split at reported
      · rw [List.mem_singleton.mp reported]
        rfl
      · cases reported

namespace Host

theorem exists_entry_of_table (host : Host) (kind : OperationKind) (action : Action)
    (registered : action ∈ host.table.actionsFor kind) :
    ∃ analyzer ∈ host.analyzers, ∃ entry ∈ analyzer.actions, entry.1 = action := by
  rw [show host.table = registerAll (host.analyzers.filter fun analyzer =>
    analyzer.isEnabled host.rules) from rfl, actionsFor_registerAll] at registered
  obtain ⟨analyzer, enabled, taken⟩ := List.mem_flatMap.mp registered
  obtain ⟨entry, listed, copy⟩ := List.mem_flatMap.mp taken
  exact ⟨analyzer, List.mem_of_mem_filter enabled, entry, listed, (List.eq_of_mem_replicate copy).symm⟩

theorem file_of_mem_analyzeFile (host : Host)
    (confined : ∀ analyzer ∈ host.analyzers, analyzer.Confined) (program : Program)
    (file : SourceFile) (diagnostic : Diagnostic)
    (shown : diagnostic ∈ host.analyzeFile program file) : diagnostic.file = file.name := by
  obtain ⟨raw, reported, graded⟩ := List.mem_filterMap.mp shown
  obtain ⟨⟨id, operation⟩, _, taken⟩ := List.mem_flatMap.mp reported
  obtain ⟨action, registered, inside⟩ := List.mem_flatMap.mp taken
  obtain ⟨analyzer, listed, entry, member, rfl⟩ :=
    host.exists_entry_of_table operation.kind action registered
  have place := (confined analyzer listed).placed entry member _ raw inside
  have same := congrArg (fun key => (ofLex key).1) (host.key_of_grade raw diagnostic graded)
  exact same.trans place

theorem analyzeFile_withFiles (host : Host)
    (confined : ∀ analyzer ∈ host.analyzers, analyzer.Confined) (program : Program)
    (files : List SourceFile) (file : SourceFile) :
    host.analyzeFile { program with files := files } file = host.analyzeFile program file := by
  have reports : report host.table { program with files := files } file =
      report host.table program file := by
    apply List.flatMap_congr
    rintro ⟨id, operation⟩ _
    apply List.flatMap_congr
    intro action registered
    obtain ⟨analyzer, listed, entry, member, rfl⟩ :=
      host.exists_entry_of_table operation.kind action registered
    exact (confined analyzer listed).blind entry member program files file id operation
  rw [analyzeFile, reports]
  rfl

theorem analyze_withFiles (host : Host)
    (confined : ∀ analyzer ∈ host.analyzers, analyzer.Confined) (program : Program)
    (files : List SourceFile) :
    host.analyze { program with files := files } =
      Diagnostic.sort (files.flatMap (host.analyzeFile program)) := by
  rw [analyze_eq_sort]
  congr 1
  apply List.flatMap_congr
  intro file _
  exact host.analyzeFile_withFiles confined program files file

theorem filter_name_of_perm (files others : List SourceFile) (perm : others.Perm files)
    (distinct : (files.map SourceFile.name).Nodup) (name : String) :
    (others.filter fun file => file.name = name) = files.filter fun file => file.name = name := by
  have perm' := perm.filter fun file => decide (file.name = name)
  have names := distinct.sublist
    ((List.filter_sublist (l := files) (p := fun file => decide (file.name = name))).map _)
  have named : ∀ file ∈ files.filter (fun file => file.name = name), file.name = name := by
    intro file member
    exact of_decide_eq_true (List.mem_filter.mp member).2
  generalize files.filter (fun file => file.name = name) = kept at perm' names named ⊢
  cases kept with
  | nil => exact perm'.eq_nil
  | cons first kept =>
      cases kept with
      | nil => exact List.perm_singleton.mp perm'
      | cons second kept =>
          have apart := (List.nodup_cons.mp names).1
          rw [named first (by simp), ← named second (by simp)] at apart
          simp at apart

theorem sort_flatMap_of_perm (host : Host)
    (confined : ∀ analyzer ∈ host.analyzers, analyzer.Confined) (program : Program)
    (files others : List SourceFile) (perm : others.Perm files)
    (distinct : (files.map SourceFile.name).Nodup) :
    Diagnostic.sort (others.flatMap (host.analyzeFile program)) =
      Diagnostic.sort (files.flatMap (host.analyzeFile program)) := by
  have stable := Diagnostic.sort_stable (others.flatMap (host.analyzeFile program))
  have merged := perm.flatMap_right (host.analyzeFile program)
  refine StableSort.unique _ _ _ ⟨stable.perm.trans merged, stable.sorted, ?_⟩
    (Diagnostic.sort_stable (files.flatMap (host.analyzeFile program)))
  intro key
  -- Diagnostics of one key are in one file.
  have tiesOf : ∀ list : List SourceFile,
      (list.flatMap (host.analyzeFile program)).filter (fun d => d.key = key) =
        (list.filter fun file => file.name = (ofLex key).1).flatMap fun file =>
          (host.analyzeFile program file).filter fun d => d.key = key := by
    intro list
    rw [List.filter_flatMap]
    symm
    apply flatMap_filter_of_silent
    intro file _ elsewhere
    apply List.filter_eq_nil_iff.mpr
    intro diagnostic shown tied
    have place := host.file_of_mem_analyzeFile confined program file diagnostic shown
    rw [← of_decide_eq_true tied] at elsewhere
    exact of_decide_eq_false elsewhere place.symm
  rw [stable.ties, tiesOf, tiesOf, filter_name_of_perm files others perm distinct]

theorem filter_file_insert (host : Host)
    (confined : ∀ analyzer ∈ host.analyzers, analyzer.Confined) (program : Program)
    (before after : List SourceFile) (file : SourceFile) (name : String)
    (apart : name ≠ file.name) :
    (host.analyze { program with files := before ++ file :: after }).filter
        (fun d => d.file = name) =
      (host.analyze { program with files := before ++ after }).filter fun d => d.file = name := by
  have silent : (host.analyzeFile program file).filter (fun d => d.file = name) = [] := by
    apply List.filter_eq_nil_iff.mpr
    intro diagnostic shown here
    have place := host.file_of_mem_analyzeFile confined program file diagnostic shown
    exact apart ((of_decide_eq_true here).symm.trans place)
  rw [host.analyze_withFiles confined, host.analyze_withFiles confined, Diagnostic.filter_sort,
    Diagnostic.filter_sort, List.flatMap_append, List.flatMap_append, List.flatMap_cons, List.filter_append,
    List.filter_append, List.filter_append, silent, List.nil_append]

theorem builtIn_confined (rules : RuleMap) :
    ∀ analyzer ∈ (builtIn rules).analyzers, analyzer.Confined := by
  intro analyzer listed
  rw [List.mem_singleton.mp listed]
  exact ImmutableByConvention.confined

/-- Every host shows the stable sort of what it finds file by file. With the analyzers that come with
the tool, and files of distinct names, the order of the files and the order in which their findings
are merged make no difference; and a further file makes no difference to the diagnostics of files
with other names. -/
theorem analyze_independent_of_files :
    (∀ (host : Host) (program : Program),
      StableSort Diagnostic.key (program.files.flatMap (host.analyzeFile program))
        (host.analyze program)) ∧
    (∀ (rules : RuleMap) (program : Program) (files : List SourceFile),
      (program.files.map SourceFile.name).Nodup → files.Perm program.files →
        (builtIn rules).analyze { program with files := files } =
            (builtIn rules).analyze program ∧
          Diagnostic.sort (files.flatMap ((builtIn rules).analyzeFile program)) =
            (builtIn rules).analyze program) ∧
    (∀ (rules : RuleMap) (program : Program) (before after : List SourceFile)
        (file : SourceFile) (name : String), name ≠ file.name →
      ((builtIn rules).analyze { program with files := before ++ file :: after }).filter
          (fun d => d.file = name) =
        ((builtIn rules).analyze { program with files := before ++ after }).filter
          fun d => d.file = name) := by
  refine ⟨?_, ?_, ?_⟩
  · intro host program
    rw [analyze_eq_sort]
    exact Diagnostic.sort_stable _
  · intro rules program files distinct perm
    have confined := builtIn_confined rules
    have merged := (builtIn rules).sort_flatMap_of_perm confined program program.files files perm
      distinct
    rw [(builtIn rules).analyze_withFiles confined, analyze_eq_sort]
    exact ⟨merged, merged⟩
  · intro rules program before after file name apart
    exact (builtIn rules).filter_file_insert (builtIn_confined rules) program before after file name
      apart

def referringX : Operation := ⟨.propertyReference, .simpleMemberAccess, ⟨0, 3⟩, [], ⟨0⟩⟩

def assigningX : Operation := ⟨.simpleAssignment, .assignment, ⟨0, 7⟩, [⟨0⟩], .absent⟩

def propertyX : PropertyDecl := { name := "X", containingType := ⟨0⟩ }

def violating (name : String) : SourceFile where
  name := name
  operations := #[referringX, assigningX]

def twoFiles : Program where
  types := #[{ name := "Point", attributes := [{ name := "ImmutableByConventionAttribute" }] }]
  properties := #[propertyX]
  files := [violating "b", violating "a"]

theorem twoFiles_analyze :
    (twoFiles.files.map SourceFile.name).Nodup ∧
      twoFiles.files.reverse.Perm twoFiles.files ∧
      (builtIn .empty).analyze { twoFiles with files := twoFiles.files.reverse } =
        (builtIn .empty).analyze twoFiles ∧
      "b" ≠ (violating "a").name ∧
      ((builtIn .empty).analyze twoFiles).filter (fun d => d.file = "b") =
        ((builtIn .empty).analyze { twoFiles with files := [violating "b"] }).filter
          fun d => d.file = "b" := by
  have distinct : (twoFiles.files.map SourceFile.name).Nodup := by decide
  have perm : twoFiles.files.reverse.Perm twoFiles.files := List.reverse_perm _
  have orders := analyze_independent_of_files.2.1 .empty twoFiles _ distinct perm
  have other : "b" ≠ (violating "a").name := by decide
  have without := analyze_independent_of_files.2.2 .empty twoFiles [violating "b"] []
    (violating "a") "b" other
  exact ⟨distinct, perm, orders.1, other, without⟩

end Host

end ConventionLint
