import ConventionLint.Program.Basic

namespace ConventionLint

namespace Program

def addType (program : Program) (decl : TypeDecl) : TypeId × Program :=
  (.ofPosition program.types.size, { program with types := program.types.push decl })

def addMarkedType (program : Program) (name : String) (attributes : List String) : TypeId × Program :=
  program.addType { name := name, attributes := attributes.map fun name => { name := name } }

/-- A marked type that is given a base once it has been added. -/
def addDerivedType (program : Program) (name : String) (base : TypeId) (attributes : List String) :
    TypeId × Program :=
  let (id, program) := program.addMarkedType name attributes
  let types := program.types.modify id.position fun decl => { decl with baseType := base }
  (id, { program with types := types })

def addProperty (program : Program) (containingType : TypeId) (name : String) : PropertyId × Program :=
  (.ofPosition program.properties.size,
    { program with properties := program.properties.push { name := name, containingType := containingType } })

def addFile (program : Program) (file : SourceFile) : Program :=
  { program with files := program.files ++ [file] }

end Program

namespace SourceFile

def withText (file : SourceFile) (text : String) : SourceFile := { file with text := some text }

def findText (needle : List Char) : List Char → Option Nat
  | [] => if needle.isEmpty then some 0 else none
  | c :: cs => if needle.isPrefixOf (c :: cs) then some 0 else (findText needle cs).map (· + c.utf8Size)

def spanOf? (file : SourceFile) (needle : String) : Option Span :=
  match file.text with
  | none => none
  | some text =>
    (findText needle.toList text.toList).map fun start =>
      ⟨start.toUInt32, (start + needle.utf8ByteSize).toUInt32⟩

def add (file : SourceFile) (operation : Operation) : OperationId × SourceFile :=
  (.ofPosition file.operations.size, { file with operations := file.operations.push operation })

def addNode (file : SourceFile) (kind : OperationKind) (form : SourceForm) (span : Span)
    (children : List OperationId) : OperationId × SourceFile :=
  file.add { kind := kind, form := form, span := span, children := children }

def addRoot (file : SourceFile) (id : OperationId) : SourceFile :=
  { file with roots := file.roots ++ [id] }

def addLocalReference (file : SourceFile) (span : Span) : OperationId × SourceFile :=
  file.addNode .localReference .identifierName span []

def addThisReference (file : SourceFile) (span : Span) : OperationId × SourceFile :=
  file.addNode .instanceReference .thisExpression span []

def addLiteral (file : SourceFile) (span : Span) : OperationId × SourceFile :=
  file.addNode .literal .literal span []

def addPropertyReference (file : SourceFile) (property : PropertyId) (receiver : OperationId)
    (form : SourceForm) (span : Span) : OperationId × SourceFile :=
  file.add
    { kind := .propertyReference, form := form, span := span, property := property,
      children := if receiver.isAbsent then [] else [receiver] }

def addMemberAccess (file : SourceFile) (property : PropertyId) (receiver : OperationId) (span : Span) :
    OperationId × SourceFile :=
  file.addPropertyReference property receiver .simpleMemberAccess span

def addAssignment (file : SourceFile) (target value : OperationId) (span : Span) :
    OperationId × SourceFile :=
  file.addNode .simpleAssignment .assignment span [target, value]

def addCompoundAssignment (file : SourceFile) (target value : OperationId) (span : Span) :
    OperationId × SourceFile :=
  file.addNode .compoundAssignment .assignment span [target, value]

def addIncrement (file : SourceFile) (target : OperationId) (span : Span) : OperationId × SourceFile :=
  file.addNode .increment .unaryAfter span [target]

def addStatement (file : SourceFile) (expression : OperationId) (span : Span) :
    OperationId × SourceFile :=
  let (id, file) := file.addNode .expressionStatement .statement span [expression]
  (id, file.addRoot id)

end SourceFile

end ConventionLint
