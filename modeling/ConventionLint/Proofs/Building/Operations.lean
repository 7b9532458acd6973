import ConventionLint.Program.Builder
import ConventionLint.Proofs.Walk.Coverage

namespace ConventionLint

/-- References are given to the entries of an arena in the order of their positions, and each
resolves to the entry that it was given for. -/
structure HandedOut {arena : Arena} {α : Type} (given : List (Ref arena × α)) (entries : Array α) :
    Prop where
  complete : given.length = entries.size
  ordered : ∀ k (ref : Ref arena) entry, given[k]? = some (ref, entry) → ref.position = k
  resolved : ∀ (ref : Ref arena) entry, (ref, entry) ∈ given ↔ ref.resolve? entries = some entry

theorem handedOut_numbered {arena : Arena} {α : Type} (entries : Array α)
    (bound : entries.size ≤ 4294967295) :
    HandedOut (Ref.numbered entries : List (Ref arena × α)) entries where
  complete := Ref.length_numbered entries
  ordered := by
    intro k ref entry found
    rw [Ref.getElem?_numbered, Option.map_eq_some_iff] at found
    obtain ⟨value, inside, same⟩ := found
    cases same
    have small := (Array.getElem?_eq_some_iff.mp inside).1
    exact Ref.position_ofPosition k (by omega)
  resolved := Ref.mem_numbered entries bound

theorem HandedOut.distinct {arena : Arena} {α : Type} {given : List (Ref arena × α)}
    {entries : Array α} (handed : HandedOut given entries) : given.Nodup := by
  apply List.pairwise_iff_getElem.mpr
  intro i j first second before same
  have one := handed.ordered i given[i].1 given[i].2 (List.getElem?_eq_getElem first)
  have two := handed.ordered j given[j].1 given[j].2 (List.getElem?_eq_getElem second)
  rw [same, two] at one
  omega

namespace Building

inductive Addition where
  | given (operation : Operation)
  | node (kind : OperationKind) (form : SourceForm) (span : Span) (children : List OperationId)
  | localReference (span : Span)
  | thisReference (span : Span)
  | literal (span : Span)
  | propertyReference (property : PropertyId) (receiver : OperationId) (form : SourceForm)
      (span : Span)
  | memberAccess (property : PropertyId) (receiver : OperationId) (span : Span)
  | assignment (target value : OperationId) (span : Span)
  | compoundAssignment (target value : OperationId) (span : Span)
  | increment (target : OperationId) (span : Span)
  | statement (expression : OperationId) (span : Span)
  deriving DecidableEq, Repr

namespace Addition

def apply (file : SourceFile) : Addition → OperationId × SourceFile
  | given operation => file.add operation
  | node kind form span children => file.addNode kind form span children
  | localReference span => file.addLocalReference span
  | thisReference span => file.addThisReference span
  | literal span => file.addLiteral span
  | propertyReference property receiver form span =>
    file.addPropertyReference property receiver form span
  | memberAccess property receiver span => file.addMemberAccess property receiver span
  | assignment target value span => file.addAssignment target value span
  | compoundAssignment target value span => file.addCompoundAssignment target value span
  | increment target span => file.addIncrement target span
  | statement expression span => file.addStatement expression span

def described : Addition → Operation
  | given operation => operation
  | node kind form span children => ⟨kind, form, span, children, .absent⟩
  | localReference span => ⟨.localReference, .identifierName, span, [], .absent⟩
  | thisReference span => ⟨.instanceReference, .thisExpression, span, [], .absent⟩
  | literal span => ⟨.literal, .literal, span, [], .absent⟩
  | propertyReference property receiver form span =>
    ⟨.propertyReference, form, span, [receiver].filter (· ≠ .absent), property⟩
  | memberAccess property receiver span =>
    ⟨.propertyReference, .simpleMemberAccess, span, [receiver].filter (· ≠ .absent), property⟩
  | assignment target value span => ⟨.simpleAssignment, .assignment, span, [target, value], .absent⟩
  | compoundAssignment target value span =>
    ⟨.compoundAssignment, .assignment, span, [target, value], .absent⟩
  | increment target span => ⟨.increment, .unaryAfter, span, [target], .absent⟩
  | statement expression span => ⟨.expressionStatement, .statement, span, [expression], .absent⟩

def operands : Addition → List OperationId
  | given operation => operation.children
  | node _ _ _ children => children
  | localReference _ | thisReference _ | literal _ => []
  | propertyReference _ receiver _ _ | memberAccess _ receiver _ => [receiver]
  | assignment target value _ | compoundAssignment target value _ => [target, value]
  | increment target _ => [target]
  | statement expression _ => [expression]

def isStatement : Addition → Bool
  | statement _ _ => true
  | _ => false

theorem children_described_subset (addition : Addition) :
    addition.described.children ⊆ addition.operands := by
  cases addition with
  | propertyReference property receiver form span =>
      exact List.filter_subset_self (p := (· ≠ .absent)) [receiver]
  | memberAccess property receiver span =>
      exact List.filter_subset_self (p := (· ≠ .absent)) [receiver]
  | _ => exact List.Subset.refl _

theorem receiver_children (receiver : OperationId) :
    (if receiver.isAbsent then [] else [receiver]) = [receiver].filter (· ≠ .absent) := by
  by_cases missing : receiver = .absent
  · simp [Ref.isAbsent, missing]
  · simp [Ref.isAbsent, missing]

theorem apply_of_not_statement (file : SourceFile) (addition : Addition)
    (plain : addition.isStatement = false) : addition.apply file = file.add addition.described := by
  cases addition with
  | statement expression span => cases plain
  | propertyReference property receiver form span =>
      rw [described, ← receiver_children]
      rfl
  | memberAccess property receiver span =>
      rw [described, ← receiver_children]
      rfl
  | _ => rfl

/-- Every addition appends what it describes, and answers the reference to it. Only a statement
becomes a root. -/
theorem apply_eq (file : SourceFile) (addition : Addition) :
    addition.apply file = (Ref.ofPosition file.operations.size,
      { file with
        operations := file.operations.push addition.described
        roots := file.roots ++
          if addition.isStatement then [Ref.ofPosition file.operations.size] else [] }) := by
  cases wraps : addition.isStatement with
  | false => simp [apply_of_not_statement file addition wraps, SourceFile.add]
  | true =>
      cases addition with
      | statement expression span => rfl
      | _ => cases wraps

end Addition

inductive Answer where
  | done
  | span (found : Option Span)
  | type (id : TypeId)
  | property (id : PropertyId)
  | operation (id : OperationId)
  | file (slot : Nat)
  deriving DecidableEq, Repr

inductive FileCall where
  | withText (text : String)
  | spanOf (needle : String)
  | addRoot (id : OperationId)
  | add (addition : Addition)
  deriving DecidableEq, Repr

namespace FileCall

def perform (file : SourceFile) : FileCall → Answer × SourceFile
  | withText text => (.done, file.withText text)
  | spanOf needle => (.span (file.spanOf? needle), file)
  | addRoot id => (.done, file.addRoot id)
  | add addition => (.operation (addition.apply file).1, (addition.apply file).2)

def added : FileCall × Answer → Option (OperationId × Operation)
  | (add addition, .operation id) => some (id, addition.described)
  | _ => none

def rooted : FileCall × Answer → Option OperationId
  | (addRoot id, .done) => some id
  | (add (.statement _ _), .operation id) => some id
  | _ => none

def referred : FileCall × Answer → List OperationId
  | (add addition, .operation _) => addition.operands
  | _ => []

/-- Every operation that a call refers to is absent, or was answered to an earlier call. -/
def RefersBack (log : List (FileCall × Answer)) : Prop :=
  ∀ k (inside : k < log.length), ∀ ref ∈ referred log[k],
    ref = .absent ∨ ref ∈ ((log.take k).filterMap added).map Prod.fst

instance (log : List (FileCall × Answer)) : Decidable (RefersBack log) :=
  inferInstanceAs (Decidable (∀ k (inside : k < log.length), ∀ ref ∈ referred log[k],
    ref = .absent ∨ ref ∈ ((log.take k).filterMap added).map Prod.fst))

theorem rooted_add (addition : Addition) (id : OperationId) :
    rooted (add addition, .operation id) = if addition.isStatement then some id else none := by
  cases addition with
  | _ => rfl

theorem name_perform (file : SourceFile) (call : FileCall) : (call.perform file).2.name = file.name := by
  cases call with
  | add addition => rw [perform, addition.apply_eq]
  | _ => rfl

theorem arena_perform (file : SourceFile) (call : FileCall) :
    (call.perform file).2.arena =
      file.arena ++ [(call, (call.perform file).1)].filterMap added := by
  cases call with
  | add addition =>
      rw [perform, addition.apply_eq]
      exact Ref.numbered_push file.operations addition.described
  | _ => exact (List.append_nil file.arena).symm

theorem roots_perform (file : SourceFile) (call : FileCall) :
    (call.perform file).2.roots =
      file.roots ++ [(call, (call.perform file).1)].filterMap rooted := by
  cases call with
  | add addition =>
      rw [perform, addition.apply_eq, List.filterMap_cons, rooted_add]
      cases addition.isStatement with
      | false => rfl
      | true => rfl
  | addRoot id => rfl
  | _ => exact (List.append_nil file.roots).symm

/-- What the calls and their answers tell about the file. -/
structure Traces (log : List (FileCall × Answer)) (file : SourceFile) : Prop where
  operations : log.filterMap added = file.arena
  roots : log.filterMap rooted = file.roots

theorem traces_empty (name : String) : Traces [] { name := name } := ⟨rfl, rfl⟩

theorem Traces.perform {log : List (FileCall × Answer)} {file : SourceFile} (traces : Traces log file)
    (call : FileCall) :
    Traces (log ++ [(call, (call.perform file).1)]) (call.perform file).2 where
  operations := by rw [List.filterMap_append, traces.operations, arena_perform]
  roots := by rw [List.filterMap_append, traces.roots, roots_perform]

theorem Traces.handedOut {log : List (FileCall × Answer)} {file : SourceFile}
    (traces : Traces log file) (bound : file.operations.size ≤ 4294967295) :
    HandedOut (log.filterMap added) file.operations := by
  rw [traces.operations]
  exact handedOut_numbered file.operations bound

theorem exists_addition_of_added {entry : FileCall × Answer} {id : OperationId}
    {operation : Operation} (found : added entry = some (id, operation)) :
    ∃ addition : Addition, operation = addition.described ∧ referred entry = addition.operands := by
  unfold added at found
  split at found
  · next addition answered =>
      cases found
      exact ⟨addition, rfl, rfl⟩
  · cases found

theorem Traces.exists_call {log : List (FileCall × Answer)} {file : SourceFile}
    (traces : Traces log file) (i : Nat) (operation : Operation)
    (found : file.operations[i]? = some operation) :
    ∃ k, ∃ inside : k < log.length, added log[k] = some (Ref.ofPosition i, operation) ∧
      (log.take k).filterMap added = file.arena.take i := by
  have entry : file.arena[i]? = some (Ref.ofPosition i, operation) := by
    rw [SourceFile.arena, List.getElem?_mapIdx, Array.getElem?_toList, found, Option.map_some]
  obtain ⟨inside, value⟩ := List.getElem?_eq_some_iff.mp entry
  have parts : log.filterMap added =
      file.arena.take i ++ (Ref.ofPosition i, operation) :: file.arena.drop (i + 1) := by
    rw [traces.operations, ← value, List.getElem_cons_drop, List.take_append_drop]
  obtain ⟨front, back, rfl, before, after⟩ := List.filterMap_eq_append_iff.mp parts
  obtain ⟨skipped, own, later, rfl, silent, mine, _⟩ := List.filterMap_eq_cons_iff.mp after
  refine ⟨(front ++ skipped).length, by simp, ?_, ?_⟩
  · simpa using mine
  · rw [← List.append_assoc, List.take_left, List.filterMap_append, before,
      List.filterMap_eq_nil_iff.mpr silent, List.append_nil]

theorem Traces.acyclic {log : List (FileCall × Answer)} {file : SourceFile}
    (traces : Traces log file) (bound : file.operations.size ≤ 4294967295)
    (back : RefersBack log) : file.Acyclic := by
  apply file.acyclic_of_descending
  intro i inside child member present
  obtain ⟨k, logged, own, before⟩ :=
    traces.exists_call i file.operations[i] (Array.getElem?_eq_getElem inside)
  obtain ⟨addition, described, operands⟩ := exists_addition_of_added own
  rw [described] at member
  have named : child ∈ referred log[k] := operands ▸ addition.children_described_subset member
  rcases back k logged child named with missing | answered
  · have largest : (Ref.absent : OperationId).position = 4294967295 := rfl
    rw [missing] at present
    omega
  · rw [before] at answered
    obtain ⟨entry, earlier, rfl⟩ := List.mem_map.mp answered
    obtain ⟨j, smaller, same⟩ := List.mem_take_iff_getElem.mp earlier
    have position : entry.1.position = j := by
      simp only [← same, SourceFile.arena, List.getElem_mapIdx]
      exact Ref.position_ofPosition j (by omega)
    omega

theorem Traces.walk_perm {log : List (FileCall × Answer)} {file : SourceFile}
    (traces : Traces log file) (bound : file.operations.size ≤ 4294967295)
    (back : RefersBack log) : file.walk.Perm (log.filterMap added) := by
  have handed := traces.handedOut bound
  have distinct : file.walk.Nodup := file.walk_distinct.of_map Prod.fst
  apply (List.perm_ext_iff_of_nodup distinct handed.distinct).mpr
  rintro ⟨id, operation⟩
  rw [file.mem_walk, handed.resolved]
  constructor
  · intro visited
    exact visited.1
  · intro resolved
    exact ⟨resolved, file.reachable_of_acyclic bound (traces.acyclic bound back) id operation resolved⟩

end FileCall

end Building

end ConventionLint
