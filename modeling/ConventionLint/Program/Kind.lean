namespace ConventionLint

inductive OperationKind where
  | simpleAssignment
  | compoundAssignment
  | increment
  | decrement
  | propertyReference
  | fieldReference
  | localReference
  | parameterReference
  | instanceReference
  | arrayElementReference
  | literal
  | invocation
  | objectCreation
  | expressionStatement
  | block
  | other
  deriving DecidableEq, Repr, Inhabited

namespace OperationKind

def label : OperationKind → String
  | simpleAssignment => "SimpleAssignment"
  | compoundAssignment => "CompoundAssignment"
  | increment => "Increment"
  | decrement => "Decrement"
  | propertyReference => "PropertyReference"
  | fieldReference => "FieldReference"
  | localReference => "LocalReference"
  | parameterReference => "ParameterReference"
  | instanceReference => "InstanceReference"
  | arrayElementReference => "ArrayElementReference"
  | literal => "Literal"
  | invocation => "Invocation"
  | objectCreation => "ObjectCreation"
  | expressionStatement => "ExpressionStatement"
  | block => "Block"
  | other => "Other"

def all : List OperationKind :=
  [simpleAssignment, compoundAssignment, increment, decrement, propertyReference, fieldReference,
    localReference, parameterReference, instanceReference, arrayElementReference, literal, invocation,
    objectCreation, expressionStatement, block, other]

def ofLabel? (label : String) : Option OperationKind := all.find? fun kind => kind.label = label

def isAssignmentLike : OperationKind → Bool
  | simpleAssignment | compoundAssignment | increment | decrement => true
  | _ => false

end OperationKind

inductive SourceForm where
  | identifierName
  | simpleMemberAccess
  | elementAccess
  | thisExpression
  | assignment
  | unaryAfter
  | unaryBefore
  | literal
  | invocation
  | objectCreation
  | objectInitializer
  | statement
  | block
  | implicit
  deriving DecidableEq, Repr, Inhabited

namespace SourceForm

def label : SourceForm → String
  | identifierName => "IdentifierName"
  | simpleMemberAccess => "SimpleMemberAccessExpression"
  | elementAccess => "ElementAccessExpression"
  | thisExpression => "ThisExpression"
  | assignment => "AssignmentExpression"
  | unaryAfter => "PostfixUnaryExpression"
  | unaryBefore => "PrefixUnaryExpression"
  | literal => "LiteralExpression"
  | invocation => "InvocationExpression"
  | objectCreation => "ObjectCreationExpression"
  | objectInitializer => "ObjectInitializer"
  | statement => "Statement"
  | block => "Block"
  | implicit => "Implicit"

def all : List SourceForm :=
  [identifierName, simpleMemberAccess, elementAccess, thisExpression, assignment, unaryAfter, unaryBefore,
    literal, invocation, objectCreation, objectInitializer, statement, block, implicit]

def ofLabel? (label : String) : Option SourceForm := all.find? fun form => form.label = label

end SourceForm

end ConventionLint
