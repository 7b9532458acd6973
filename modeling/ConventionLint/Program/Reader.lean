import ConventionLint.Json.Reader
import ConventionLint.Program.Basic

namespace ConventionLint

open Json (Document ReadError Slot)

namespace Ref

def read {arena : Arena} (document : Document) : Except ReadError (Ref arena) :=
  document.word.map Ref.mk

end Ref

namespace Span

structure Draft where
  start : Option UInt32 := none
  stop : Option UInt32 := none

def slots : List (Slot Draft) :=
  [⟨"start", true, fun d => d.start.isSome,
      fun v d => v.word.map fun start => { d with start := some start }⟩,
    ⟨"end", true, fun d => d.stop.isSome, fun v d => v.word.map fun stop => { d with stop := some stop }⟩]

def Draft.toSpan (draft : Draft) : Span := ⟨draft.start.getD 0, draft.stop.getD 0⟩

def read (document : Document) : Except ReadError Span :=
  (document.record "Span" slots {}).map Draft.toSpan

end Span

namespace Attribute

structure Draft where
  name : Option String := none
  scope : Option (Option String) := none

def slots : List (Slot Draft) :=
  [⟨"name", true, fun d => d.name.isSome, fun v d => v.text.map fun name => { d with name := some name }⟩,
    ⟨"namespace", false, fun d => d.scope.isSome,
      fun v d => (v.nullable Document.text).map fun scope => { d with scope := some scope }⟩]

def Draft.toAttribute (draft : Draft) : Attribute where
  name := draft.name.getD ""
  scope := draft.scope.getD none

def read (document : Document) : Except ReadError Attribute :=
  (document.record "AttributeData" slots {}).map Draft.toAttribute

end Attribute

namespace TypeDecl

structure Draft where
  name : Option String := none
  scope : Option (Option String) := none
  baseType : Option TypeId := none
  attributes : Option (List Attribute) := none

def slots : List (Slot Draft) :=
  [⟨"name", true, fun d => d.name.isSome, fun v d => v.text.map fun name => { d with name := some name }⟩,
    ⟨"namespace", false, fun d => d.scope.isSome,
      fun v d => (v.nullable Document.text).map fun scope => { d with scope := some scope }⟩,
    ⟨"baseType", false, fun d => d.baseType.isSome,
      fun v d => (Ref.read v).map fun baseType => { d with baseType := some baseType }⟩,
    ⟨"attributes", false, fun d => d.attributes.isSome,
      fun v d => (v.list Attribute.read).map fun attributes => { d with attributes := some attributes }⟩]

def Draft.toTypeDecl (draft : Draft) : TypeDecl where
  name := draft.name.getD ""
  scope := draft.scope.getD none
  baseType := draft.baseType.getD .absent
  attributes := draft.attributes.getD []

def read (document : Document) : Except ReadError TypeDecl :=
  (document.record "TypeDecl" slots {}).map Draft.toTypeDecl

end TypeDecl

namespace PropertyDecl

structure Draft where
  name : Option String := none
  containingType : Option TypeId := none

def slots : List (Slot Draft) :=
  [⟨"name", true, fun d => d.name.isSome, fun v d => v.text.map fun name => { d with name := some name }⟩,
    ⟨"containingType", false, fun d => d.containingType.isSome,
      fun v d => (Ref.read v).map fun id => { d with containingType := some id }⟩]

def Draft.toPropertyDecl (draft : Draft) : PropertyDecl where
  name := draft.name.getD ""
  containingType := draft.containingType.getD .absent

def read (document : Document) : Except ReadError PropertyDecl :=
  (document.record "PropertyDecl" slots {}).map Draft.toPropertyDecl

end PropertyDecl

namespace Operation

structure Draft where
  kind : Option OperationKind := none
  form : Option SourceForm := none
  span : Option Span := none
  children : Option (List OperationId) := none
  property : Option PropertyId := none

def slots : List (Slot Draft) :=
  [⟨"kind", true, fun d => d.kind.isSome,
      fun v d => (v.choice OperationKind.all OperationKind.label).map fun kind => { d with kind := some kind }⟩,
    ⟨"syntax", true, fun d => d.form.isSome,
      fun v d => (v.choice SourceForm.all SourceForm.label).map fun form => { d with form := some form }⟩,
    ⟨"span", true, fun d => d.span.isSome,
      fun v d => (Span.read v).map fun span => { d with span := some span }⟩,
    ⟨"children", false, fun d => d.children.isSome,
      fun v d => (v.list Ref.read).map fun children => { d with children := some children }⟩,
    ⟨"property", false, fun d => d.property.isSome,
      fun v d => (Ref.read v).map fun property => { d with property := some property }⟩]

def Draft.toOperation (draft : Draft) : Operation where
  kind := draft.kind.getD .other
  form := draft.form.getD .implicit
  span := draft.span.getD ⟨0, 0⟩
  children := draft.children.getD []
  property := draft.property.getD .absent

def read (document : Document) : Except ReadError Operation :=
  (document.record "Operation" slots {}).map Draft.toOperation

end Operation

namespace SourceFile

structure Draft where
  name : Option String := none
  text : Option (Option String) := none
  operations : Option (List Operation) := none
  roots : Option (List OperationId) := none

def slots : List (Slot Draft) :=
  [⟨"name", true, fun d => d.name.isSome, fun v d => v.text.map fun name => { d with name := some name }⟩,
    ⟨"text", false, fun d => d.text.isSome,
      fun v d => (v.nullable Document.text).map fun text => { d with text := some text }⟩,
    ⟨"operations", false, fun d => d.operations.isSome,
      fun v d => (v.list Operation.read).map fun operations => { d with operations := some operations }⟩,
    ⟨"roots", false, fun d => d.roots.isSome,
      fun v d => (v.list Ref.read).map fun roots => { d with roots := some roots }⟩]

def Draft.toSourceFile (draft : Draft) : SourceFile where
  name := draft.name.getD ""
  text := draft.text.getD none
  operations := (draft.operations.getD []).toArray
  roots := draft.roots.getD []

def read (document : Document) : Except ReadError SourceFile :=
  (document.record "SourceFile" slots {}).map Draft.toSourceFile

end SourceFile

namespace Program

structure Draft where
  types : Option (List TypeDecl) := none
  properties : Option (List PropertyDecl) := none
  files : Option (List SourceFile) := none

def slots : List (Slot Draft) :=
  [⟨"types", false, fun d => d.types.isSome,
      fun v d => (v.list TypeDecl.read).map fun types => { d with types := some types }⟩,
    ⟨"properties", false, fun d => d.properties.isSome,
      fun v d => (v.list PropertyDecl.read).map fun properties => { d with properties := some properties }⟩,
    ⟨"files", false, fun d => d.files.isSome,
      fun v d => (v.list SourceFile.read).map fun files => { d with files := some files }⟩]

def Draft.toProgram (draft : Draft) : Program where
  types := (draft.types.getD []).toArray
  properties := (draft.properties.getD []).toArray
  files := draft.files.getD []

def read (document : Document) : Except ReadError Program :=
  (document.record "Program" slots {}).map Draft.toProgram

def ofJson (text : String) : Except ReadError Program := Json.readText read text

end Program

end ConventionLint
