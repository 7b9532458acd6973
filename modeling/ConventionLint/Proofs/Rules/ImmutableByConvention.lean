import ConventionLint.Proofs.Message.Pieces
import ConventionLint.Proofs.Walk.Reachability
import ConventionLint.Rules.ImmutableByConvention
import Mathlib.Data.List.Nodup
import Mathlib.Data.List.Sigma

namespace ConventionLint.ImmutableByConvention

structure Violation where
  position : Nat
  file : SourceFile
  id : OperationId
  operation : Operation
  property : PropertyDecl

namespace Violation

def place (violation : Violation) : Nat × OperationId := (violation.position, violation.id)

/-- The first child refers to the property, written as a member access. -/
def Writes (program : Program) (file : SourceFile) (operation : Operation)
    (property : PropertyDecl) : Prop :=
  ∃ child target, operation.children.head? = some child ∧ file.get? child = some target ∧
    target.kind = .propertyReference ∧ target.form = .simpleMemberAccess ∧
    program.property? target.property = some property

/-- The type that declares the property carries a marker itself. -/
def Protected (program : Program) (property : PropertyDecl) : Prop :=
  ∃ owner, program.type? property.containingType = some owner ∧
    ∃ marker ∈ owner.attributes, marker.name = "ImmutableByConventionAttribute" ∨
      marker.name = "ImmutableByConventionPlaceholderAttribute"

structure In (violation : Violation) (program : Program) : Prop where
  listed : program.files[violation.position]? = some violation.file
  resolved : violation.file.get? violation.id = some violation.operation
  reached : violation.file.Reachable violation.id
  assignment : violation.operation.kind = .simpleAssignment
  writes : Writes program violation.file violation.operation violation.property
  immutable : Protected program violation.property

def diagnostic (severity : Severity) (violation : Violation) : Diagnostic where
  id := "IBC1000"
  severity := severity
  category := "Mutation"
  file := violation.file.name
  start := violation.operation.span.start
  length := violation.operation.span.length
  message := "Property '" ++ violation.property.name ++
    "' belongs to a type that is immutable by convention and cannot be assigned"

end Violation

open Violation (Writes Protected)

theorem isImmutable_iff (program : Program) (property : PropertyDecl) :
    isImmutable program property.containingType = true ↔ Protected program property := by
  unfold isImmutable Protected
  cases program.type? property.containingType with
  | none => simp
  | some owner => simp [isMarker, markers]

theorem mutation_eq_some (program : Program) (file : SourceFile) (id : OperationId)
    (mutation : Mutation) :
    mutation? program file id = some mutation ↔
      ∃ target property, file.firstChild? id = some target ∧ target.kind = .propertyReference ∧
        target.form = .simpleMemberAccess ∧ program.property? target.property = some property ∧
        mutation = ⟨target.property, property.name, property.containingType⟩ := by
  unfold mutation?
  cases file.firstChild? id with
  | none => simp
  | some target =>
      by_cases kind : target.kind = .propertyReference
      · by_cases form : target.form = .simpleMemberAccess
        · simp [kind, form, eq_comm]
        · simp [kind, form]
      · simp [kind]

def protectedTarget? (program : Program) (file : SourceFile) (id : OperationId) :
    Option PropertyDecl :=
  match mutation? program file id with
  | none => none
  | some mutation =>
    if isImmutable program mutation.containingType then
      some ⟨mutation.name, mutation.containingType⟩
    else none

theorem protectedTarget_eq_some (program : Program) (file : SourceFile) (id : OperationId)
    (operation : Operation) (resolved : file.get? id = some operation) (property : PropertyDecl) :
    protectedTarget? program file id = some property ↔
      Writes program file operation property ∧ Protected program property := by
  rw [← isImmutable_iff]
  constructor
  · intro found
    cases written : mutation? program file id with
    | none => simp [protectedTarget?, written] at found
    | some mutation =>
        obtain ⟨target, decl, first, kind, form, declared, rfl⟩ :=
          (mutation_eq_some program file id mutation).mp written
        obtain ⟨child, head, inside⟩ :=
          (file.firstChild_eq_some id operation target resolved).mp first
        simp only [protectedTarget?, written] at found
        split at found
        · next immutable =>
            cases found
            exact ⟨⟨child, target, head, inside, kind, form, declared⟩, immutable⟩
        · cases found
  · rintro ⟨⟨child, target, head, inside, kind, form, declared⟩, immutable⟩
    have first := (file.firstChild_eq_some id operation target resolved).mpr ⟨child, head, inside⟩
    have written := (mutation_eq_some program file id _).mpr
      ⟨target, property, first, kind, form, declared, rfl⟩
    simp only [protectedTarget?, written, immutable, ↓reduceIte]

theorem check_eq (site : Site) :
    check site = ((protectedTarget? site.program site.file site.id).map fun property =>
      descriptor.create site.file.name site.operation.span [property.name]).toList := by
  unfold check protectedTarget?
  cases mutation? site.program site.file site.id with
  | none => rfl
  | some mutation =>
      by_cases immutable : isImmutable site.program mutation.containingType
      · simp [immutable]
      · simp [immutable]

theorem builtIn_table (rules : RuleMap) :
    (Host.builtIn rules).table =
      if (rules.effective descriptor).isSome then ⟨[(.simpleAssignment, [check])]⟩ else .empty := by
  have enabled : analyzer.isEnabled rules = (rules.effective descriptor).isSome := by
    simp [Analyzer.isEnabled, analyzer]
  have running : builtInAnalyzers.filter (fun analyzer => analyzer.isEnabled rules) =
      if (rules.effective descriptor).isSome then [analyzer] else [] := by
    rw [builtInAnalyzers, List.filter_cons, enabled]
    rfl
  change (builtInAnalyzers.filter fun analyzer => analyzer.isEnabled rules).foldl
    (fun table analyzer => analyzer.register table) .empty = _
  rw [running]
  split <;> rfl

theorem builtIn_actions (rules : RuleMap) (severity : Severity)
    (on : rules.effective descriptor = some severity) (kind : OperationKind) :
    (Host.builtIn rules).table.actionsFor kind =
      if kind = .simpleAssignment then [check] else [] := by
  rw [builtIn_table, on, Option.isSome_some, if_pos rfl, Dispatch.actionsFor, List.lookup_cons]
  by_cases assignment : kind = .simpleAssignment
  · simp [assignment]
  · simp [assignment, beq_eq_false_iff_ne.mpr assignment]

theorem builtIn_grade (rules : RuleMap) (severity : Severity)
    (on : rules.effective descriptor = some severity) (violation : Violation) :
    (Host.builtIn rules).grade (descriptor.create violation.file.name violation.operation.span
      [violation.property.name]) = some (violation.diagnostic severity) := by
  have message := Message.format_single "Property '"
    "' belongs to a type that is immutable by convention and cannot be assigned"
    violation.property.name (by decide) (by decide)
  have graded : (Host.builtIn rules).grade (descriptor.create violation.file.name
      violation.operation.span [violation.property.name]) =
      (rules.effective descriptor).map (descriptor.create violation.file.name
        violation.operation.span [violation.property.name]).withSeverity := rfl
  rw [graded, on, Violation.diagnostic, ← message]
  rfl

def violation? (program : Program) (position : Nat) (file : SourceFile)
    (visit : OperationId × Operation) : Option Violation :=
  if visit.2.kind = .simpleAssignment then
    (protectedTarget? program file visit.1).map fun property =>
      ⟨position, file, visit.1, visit.2, property⟩
  else none

def violationsIn (program : Program) (position : Nat) (file : SourceFile) : List Violation :=
  file.walk.filterMap (violation? program position file)

def violations (program : Program) : List Violation :=
  program.files.zipIdx.flatMap fun entry => violationsIn program entry.2 entry.1

theorem visit_graded (rules : RuleMap) (severity : Severity)
    (on : rules.effective descriptor = some severity) (program : Program) (position : Nat)
    (file : SourceFile) (visit : OperationId × Operation) :
    (((Host.builtIn rules).table.actionsFor visit.2.kind).flatMap fun action =>
        action ⟨program, file, visit.1, visit.2⟩).filterMap (Host.builtIn rules).grade =
      ((violation? program position file visit).map (Violation.diagnostic severity)).toList := by
  rw [builtIn_actions rules severity on]
  by_cases assignment : visit.2.kind = .simpleAssignment
  · simp only [assignment, ↓reduceIte, List.flatMap_singleton, check_eq, violation?]
    cases protectedTarget? program file visit.1 with
    | none => rfl
    | some property =>
        have graded := builtIn_grade rules severity on
          ⟨position, file, visit.1, visit.2, property⟩
        simp [graded]
  · simp [violation?, assignment]

theorem analyzeFile_eq (rules : RuleMap) (severity : Severity)
    (on : rules.effective descriptor = some severity) (program : Program) (position : Nat)
    (file : SourceFile) :
    (Host.builtIn rules).analyzeFile program file =
      (violationsIn program position file).map (Violation.diagnostic severity) := by
  rw [Host.analyzeFile, Host.report, List.filterMap_flatMap, violationsIn, List.map_filterMap,
    List.filterMap_eq_flatMap_toList]
  apply List.flatMap_congr
  intro visit _
  exact visit_graded rules severity on program position file visit

theorem analyze_eq (rules : RuleMap) (severity : Severity)
    (on : rules.effective descriptor = some severity) (program : Program) :
    (Host.builtIn rules).analyze program =
      Diagnostic.sort ((violations program).map (Violation.diagnostic severity)) := by
  have nonempty : (Host.builtIn rules).table.isEmpty = false := by
    rw [builtIn_table, on]
    rfl
  have files : program.files.flatMap ((Host.builtIn rules).analyzeFile program) =
      (violations program).map (Violation.diagnostic severity) := by
    rw [violations, List.map_flatMap]
    conv_lhs => rw [← List.zipIdx_map_fst 0 program.files, List.flatMap_map]
    apply List.flatMap_congr
    intro entry _
    exact analyzeFile_eq rules severity on program entry.2 entry.1
  simp [Host.analyze, nonempty, files]

theorem violation_eq_some (program : Program) (position : Nat) (file : SourceFile)
    (visit : OperationId × Operation) (violation : Violation) :
    violation? program position file visit = some violation ↔
      visit.2.kind = .simpleAssignment ∧ ∃ property,
        protectedTarget? program file visit.1 = some property ∧
        violation = ⟨position, file, visit.1, visit.2, property⟩ := by
  by_cases assignment : visit.2.kind = .simpleAssignment
  · simp [violation?, assignment, eq_comm]
  · simp [violation?, assignment]

theorem mem_violations (program : Program) (violation : Violation) :
    violation ∈ violations program ↔ violation.In program := by
  constructor
  · intro member
    obtain ⟨⟨file, position⟩, listed, inside⟩ := List.mem_flatMap.mp member
    obtain ⟨⟨id, operation⟩, walked, located⟩ := List.mem_filterMap.mp inside
    obtain ⟨assignment, property, found, rfl⟩ :=
      (violation_eq_some program position file (id, operation) violation).mp located
    obtain ⟨resolved, reached⟩ := (file.mem_walk id operation).mp walked
    obtain ⟨writes, immutable⟩ :=
      (protectedTarget_eq_some program file id operation resolved property).mp found
    exact ⟨List.mk_mem_zipIdx_iff_getElem?.mp listed, resolved, reached, assignment, writes,
      immutable⟩
  · obtain ⟨position, file, id, operation, property⟩ := violation
    rintro ⟨listed, resolved, reached, assignment, writes, immutable⟩
    have walked := (file.mem_walk id operation).mpr ⟨resolved, reached⟩
    have found :=
      (protectedTarget_eq_some program file id operation resolved property).mpr ⟨writes, immutable⟩
    have located := (violation_eq_some program position file (id, operation) _).mpr
      ⟨assignment, property, found, rfl⟩
    refine List.mem_flatMap.mpr ⟨(file, position), List.mk_mem_zipIdx_iff_getElem?.mpr listed, ?_⟩
    exact List.mem_filterMap.mpr ⟨(id, operation), walked, located⟩

theorem places_sublist (program : Program) (position : Nat) (file : SourceFile)
    (visits : List (OperationId × Operation)) :
    ((visits.filterMap (violation? program position file)).map Violation.place).Sublist
      ((visits.map Prod.fst).map (Prod.mk position)) := by
  induction visits with
  | nil => exact List.Sublist.slnil
  | cons visit visits ih =>
      cases located : violation? program position file visit with
      | none =>
          rw [List.filterMap_cons_none located]
          exact ih.cons _
      | some violation =>
          obtain ⟨_, property, _, rfl⟩ :=
            (violation_eq_some program position file visit violation).mp located
          rw [List.filterMap_cons_some located]
          exact ih.cons_cons _

theorem places_distinct (program : Program) :
    ((violations program).map Violation.place).Nodup := by
  rw [violations, List.map_flatMap]
  apply List.nodup_flatMap.mpr
  constructor
  · intro entry _
    have distinct := entry.1.walk_distinct.map (Prod.mk_right_injective entry.2)
    exact distinct.sublist (places_sublist program entry.2 entry.1 entry.1.walk)
  · -- Two files may be equal, but not their positions.
    have positions := List.nodup_zipIdx_map_snd program.files
    refine (List.pairwise_map.mp positions).imp ?_
    intro first second apart place inFirst inSecond
    have firstPlace := (places_sublist program first.2 first.1 first.1.walk).subset inFirst
    have secondPlace := (places_sublist program second.2 second.1 second.1.walk).subset inSecond
    obtain ⟨_, _, rfl⟩ := List.mem_map.mp firstPlace
    obtain ⟨_, _, same⟩ := List.mem_map.mp secondPlace
    exact apart (congrArg Prod.fst same).symm

/-- With the rule off nothing is reported. Otherwise what is reported are, in some order, the
diagnostics of the violations in the program: each violation stands in the list, nothing else does,
and no two entries of the list have the same place. -/
theorem analyze_perm_violations (rules : RuleMap) (program : Program) :
    match rules.effective descriptor with
    | none => (Host.builtIn rules).analyze program = []
    | some severity =>
      ∃ found : List Violation, (found.map Violation.place).Nodup ∧
        (∀ violation, violation ∈ found ↔ violation.In program) ∧
        ((Host.builtIn rules).analyze program).Perm (found.map (Violation.diagnostic severity)) := by
  cases state : rules.effective descriptor with
  | none =>
      have empty : (Host.builtIn rules).table.isEmpty = true := by
        rw [builtIn_table, state]
        rfl
      exact if_pos empty
  | some severity =>
      refine ⟨violations program, places_distinct program, mem_violations program, ?_⟩
      rw [analyze_eq rules severity state]
      exact List.mergeSort_perm _ _

end ConventionLint.ImmutableByConvention
