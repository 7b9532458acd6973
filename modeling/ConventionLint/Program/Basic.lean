import ConventionLint.Program.Kind
import ConventionLint.Span

namespace ConventionLint

inductive Arena where
  | types
  | properties
  | operations
  deriving DecidableEq, Repr

/-- A reference into an arena. The largest index is kept for the absent reference. -/
structure Ref (arena : Arena) where
  index : UInt32
  deriving DecidableEq, Repr

abbrev TypeId := Ref .types
abbrev PropertyId := Ref .properties
abbrev OperationId := Ref .operations

namespace Ref

variable {arena : Arena} {α : Type}

def absent : Ref arena := ⟨0xFFFFFFFF⟩

instance : Inhabited (Ref arena) := ⟨absent⟩

def isAbsent (ref : Ref arena) : Bool := ref == absent

def position (ref : Ref arena) : Nat := ref.index.toNat

def ofPosition (position : Nat) : Ref arena := ⟨position.toUInt32⟩

def resolve? (ref : Ref arena) (entries : Array α) : Option α :=
  if ref.isAbsent then none else entries[ref.position]?

end Ref

structure Attribute where
  name : String
  scope : Option String := none
  deriving DecidableEq, Repr

structure TypeDecl where
  name : String
  scope : Option String := none
  baseType : TypeId := .absent
  attributes : List Attribute := []
  deriving DecidableEq, Repr

def TypeDecl.qualifiedName (decl : TypeDecl) : String :=
  match decl.scope with
  | some scope => if scope.isEmpty then decl.name else scope ++ "." ++ decl.name
  | none => decl.name

structure PropertyDecl where
  name : String
  containingType : TypeId := .absent
  deriving DecidableEq, Repr

/-- A node of an operation tree. Only a reference to a property has a property. -/
structure Operation where
  kind : OperationKind
  form : SourceForm
  span : Span
  children : List OperationId := []
  property : PropertyId := .absent
  deriving DecidableEq, Repr

structure SourceFile where
  name : String
  text : Option String := none
  operations : Array Operation := #[]
  roots : List OperationId := []
  deriving DecidableEq, Repr

namespace SourceFile

def get? (file : SourceFile) (id : OperationId) : Option Operation := id.resolve? file.operations

def firstChild? (file : SourceFile) (id : OperationId) : Option Operation :=
  match file.get? id with
  | none => none
  | some operation =>
    match operation.children with
    | [] => none
    | child :: _ => file.get? child

end SourceFile

structure Program where
  types : Array TypeDecl := #[]
  properties : Array PropertyDecl := #[]
  files : List SourceFile := []
  deriving DecidableEq, Repr

namespace Program

def type? (program : Program) (id : TypeId) : Option TypeDecl := id.resolve? program.types

def property? (program : Program) (id : PropertyId) : Option PropertyDecl := id.resolve? program.properties

def file? (program : Program) (name : String) : Option SourceFile :=
  program.files.find? fun file => file.name = name

def operationCount (program : Program) : Nat :=
  program.files.foldl (fun count file => count + file.operations.size) 0

end Program

end ConventionLint
