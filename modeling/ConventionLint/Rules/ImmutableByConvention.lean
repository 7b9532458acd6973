import ConventionLint.Host

/-!
The rule IBC1000: properties of types that are immutable by convention are not assigned.

An assignment is flagged if it is a simple one, its target is a property written as a member access,
and the type that declares the property carries one of the two markers itself. Markers are compared
by their simple names, and are not inherited.
-/
namespace ConventionLint.ImmutableByConvention

def descriptor : Descriptor where
  id := "IBC1000"
  title := "Properties of immutable-by-convention types must not be assigned"
  messageFormat :=
    "Property '\x7b0\x7d' belongs to a type that is immutable by convention and cannot be assigned"
  category := "Mutation"
  defaultSeverity := .error
  enabledByDefault := true
  description :=
    "Types marked with [ImmutableByConvention] are treated as immutable. Assigning to one of their " ++
    "properties through member access mutates a value that callers expect never to change; create a " ++
    "new instance instead."

def markers : List String :=
  ["ImmutableByConventionAttribute", "ImmutableByConventionPlaceholderAttribute"]

def isMarker (marker : Attribute) : Bool := markers.contains marker.name

def isImmutable (program : Program) (id : TypeId) : Bool :=
  match program.type? id with
  | none => false
  | some decl => decl.attributes.any isMarker

structure Mutation where
  property : PropertyId
  name : String
  containingType : TypeId
  deriving DecidableEq, Repr

/-- The property that an operation writes to: its first child is a reference to it, written as a member
access. -/
def mutation? (program : Program) (file : SourceFile) (id : OperationId) : Option Mutation :=
  match file.firstChild? id with
  | none => none
  | some target =>
    if target.kind = .propertyReference ∧ target.form = .simpleMemberAccess then
      (program.property? target.property).map fun decl => ⟨target.property, decl.name, decl.containingType⟩
    else none

def check (site : Site) : List Diagnostic :=
  match mutation? site.program site.file site.id with
  | none => []
  | some mutation =>
    if isImmutable site.program mutation.containingType then
      [descriptor.create site.file.name site.operation.span [mutation.name]]
    else []

def analyzer : Analyzer where
  descriptors := [descriptor]
  actions := [(check, [.simpleAssignment])]

end ConventionLint.ImmutableByConvention

namespace ConventionLint

def builtInAnalyzers : List Analyzer := [ImmutableByConvention.analyzer]

def Host.builtIn (rules : RuleMap) : Host := ⟨builtInAnalyzers, rules⟩

end ConventionLint
