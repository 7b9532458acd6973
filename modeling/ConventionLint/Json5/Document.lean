import ConventionLint.Json5.Token

namespace ConventionLint.Json5

inductive Document where
  | null
  | bool (value : Bool)
  | number (text : List Char)
  | string (components : List Component)
  | array (items : List Document)
  | object (fields : List (List Component × Document))

inductive Frame where
  | array (items : List Document)
  | object (fields : List (List Component × Document))
  | field (fields : List (List Component × Document)) (name : List Component)

inductive State where
  | value
  | item
  | field
  | colon
  | separator
  deriving DecidableEq, Repr

inductive Progress where
  | reading (state : State) (stack : List Frame)
  | complete (root : Document)

def give (value : Document) : List Frame → Option Progress
  | [] => some (.complete value)
  | .array items :: stack => some (.reading .separator (.array (value :: items) :: stack))
  | .field fields name :: stack => some (.reading .separator (.object ((name, value) :: fields) :: stack))
  | .object _ :: _ => none

def literal? (components : List Component) : Option (List Char) :=
  components.mapM fun component =>
    match component with
    | .char [source] value => if source = value then some value else none
    | _ => none

def keyword? (name : List Component) : Option Document :=
  match literal? name with
  | none => none
  | some text =>
    if text = "null".toList then some .null
    else if text = "true".toList then some (.bool true)
    else if text = "false".toList then some (.bool false)
    else if text = infinityText ∨ text = notANumberText then some (.number text)
    else none

def nextValue (stack : List Frame) : Token → Option Progress
  | .name components => (keyword? components).bind fun value => give value stack
  | .string components => give (.string components) stack
  | .number text => give (.number text) stack
  | .leftBracket => some (.reading .item (.array [] :: stack))
  | .leftBrace => some (.reading .field (.object [] :: stack))
  | _ => none

def next (state : State) (stack : List Frame) (token : Token) : Option Progress :=
  match state, stack, token with
  | .value, stack, token => nextValue stack token
  | .item, .array items :: stack, .rightBracket => give (.array items.reverse) stack
  | .item, stack, token => nextValue stack token
  | .field, .object fields :: stack, .rightBrace => give (.object fields.reverse) stack
  | .field, .object fields :: stack, .name name => some (.reading .colon (.field fields name :: stack))
  | .field, .object fields :: stack, .string name => some (.reading .colon (.field fields name :: stack))
  | .colon, stack, .colon => some (.reading .value stack)
  | .separator, .array items :: stack, .rightBracket => give (.array items.reverse) stack
  | .separator, .array items :: stack, .comma => some (.reading .item (.array items :: stack))
  | .separator, .object fields :: stack, .rightBrace => give (.object fields.reverse) stack
  | .separator, .object fields :: stack, .comma => some (.reading .field (.object fields :: stack))
  | _, _, _ => none

def Progress.advance : Progress → Token → Option Progress
  | .reading state stack, token => next state stack token
  | .complete _, _ => none

def Document.ofTokens? (tokens : List Token) : Option Document :=
  match tokens.foldlM Progress.advance (.reading .value []) with
  | some (.complete root) => some root
  | _ => none

def Document.ofText? (text : String) : Option Document :=
  (lex text.toList).bind Document.ofTokens?

end ConventionLint.Json5
