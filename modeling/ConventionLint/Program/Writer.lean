import ConventionLint.Json.Value
import ConventionLint.Program.Basic

namespace ConventionLint

open Json (Value)

def Json.optional (name : String) (value : Option Value) : List (String × Value) :=
  (value.map fun value => (name, value)).toList

namespace Ref

variable {arena : Arena}

def toValue (ref : Ref arena) : Value := .number ref.position

def toValue? (ref : Ref arena) : Option Value := if ref.isAbsent then none else some ref.toValue

def listValue? (refs : List (Ref arena)) : Option Value :=
  if refs.isEmpty then none else some (.array (refs.map toValue))

end Ref

def Span.toValue (span : Span) : Value :=
  .object [("start", .number span.start.toNat), ("end", .number span.stop.toNat)]

def Attribute.toValue (marker : Attribute) : Value :=
  .object (("name", .string marker.name) :: Json.optional "namespace" (marker.scope.map .string))

def TypeDecl.toValue (decl : TypeDecl) : Value :=
  .object
    (("name", .string decl.name) :: Json.optional "namespace" (decl.scope.map .string) ++
      Json.optional "baseType" decl.baseType.toValue? ++
      Json.optional "attributes"
        (if decl.attributes.isEmpty then none else some (.array (decl.attributes.map Attribute.toValue))))

def PropertyDecl.toValue (decl : PropertyDecl) : Value :=
  .object [("name", .string decl.name), ("containingType", decl.containingType.toValue)]

def Operation.toValue (operation : Operation) : Value :=
  .object
    ([("kind", .string operation.kind.label), ("syntax", .string operation.form.label),
        ("span", operation.span.toValue)] ++
      Json.optional "children" (Ref.listValue? operation.children) ++
      Json.optional "property" operation.property.toValue?)

def SourceFile.toValue (file : SourceFile) : Value :=
  .object
    (("name", .string file.name) :: Json.optional "text" (file.text.map .string) ++
      ("operations", .array (file.operations.toList.map Operation.toValue)) ::
      Json.optional "roots" (Ref.listValue? file.roots))

namespace Program

def toValue (program : Program) : Value :=
  .object
    [("types", .array (program.types.toList.map TypeDecl.toValue)),
      ("properties", .array (program.properties.toList.map PropertyDecl.toValue)),
      ("files", .array (program.files.map SourceFile.toValue))]

def toJson (program : Program) : String := program.toValue.pretty

end Program

end ConventionLint
