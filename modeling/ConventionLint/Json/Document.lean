import ConventionLint.Json.Token
import ConventionLint.Mismatch

/-!
Documents: the tree that the tokens of a JSON text make, up to the first defect.

A document keeps its defect at the place where it stands, because a reader that stops before that place
reports something else, and because what kind of defect it is depends on what the reader expects there.
The tree is built by an automaton that takes one token at a time and keeps the open arrays and objects
on a stack.
-/
namespace ConventionLint.Json

/-- A defect, as it counts where a value is used, where it is skipped, and where a choice is expected. -/
structure Fault where
  used : Defect
  skipped : Defect
  choice : Defect
  deriving DecidableEq, Repr

def Fault.ended : Fault := ⟨.ended, .ended, .ended⟩

def Fault.malformed : Fault := ⟨.malformed, .malformed, .malformed⟩

mutual

inductive Document where
  | null
  | bool (value : Bool)
  | number (numeral : Numeral)
  | string (text : Option String)
  | array (items : Items)
  | object (fields : Fields)
  | broken (fault : Fault)

inductive Items where
  | closed
  | broken (defect : Defect)
  | cons (item : Document) (tail : Items)

/-- The fields of an object, and how it ends: closed, with a defect, with a defect after a comma, or with
something else than a name in the place of the first name. -/
inductive Fields where
  | closed
  | broken (fault : Fault)
  | dangling (fault : Fault)
  | stray (found : Found)
  | cons (name : Option String) (value : Document) (tail : Fields)

end

inductive Frame where
  | array (items : List Document)
  | object (fields : List (Option String × Document))
  | field (fields : List (Option String × Document)) (name : Option String)

inductive State where
  | value
  | firstItem
  | firstName
  | name
  | colon
  | separator
  deriving DecidableEq, Repr

inductive Progress where
  | reading (state : State) (stack : List Frame)
  | complete (root : Document)
  | overrun (root : Document)
  | stopped (root : Document)

def Items.ofReverse (items : List Document) (tail : Items) : Items :=
  items.foldl (fun tail item => .cons item tail) tail

def Fields.ofReverse (fields : List (Option String × Document)) (tail : Fields) : Fields :=
  fields.foldl (fun tail field => .cons field.1 field.2 tail) tail

def give (value : Document) : List Frame → Progress
  | .array items :: stack => .reading .separator (.array (value :: items) :: stack)
  | .field fields name :: stack => .reading .separator (.object ((name, value) :: fields) :: stack)
  | .object _ :: _ => .stopped value
  | [] => .complete value

/-- A value ends with a defect, and so does all that is open. -/
def stop (value : Document) : List Frame → Document
  | [] => value
  | .array items :: stack =>
    stop (.array (.ofReverse items (.cons value (.broken .ended)))) stack
  | .field fields name :: stack =>
    stop (.object (.ofReverse fields (.cons name value (.broken .ended)))) stack
  | .object fields :: stack => stop (.object (.ofReverse fields (.broken .ended))) stack

def Fault.ofValue : Option Token → Fault
  | none => .ended
  | some (.brokenString used skipped) => ⟨used, skipped, used⟩
  | some (.brokenNumber atEnd) => ⟨if atEnd then .ended else .malformed, .malformed, .malformed⟩
  | some (.brokenWord defect) => ⟨defect, defect, .malformed⟩
  | some _ => .malformed

def Fault.ofName : Option Token → Fault
  | none => .ended
  | some (.brokenString used skipped) => ⟨used, skipped, used⟩
  | some _ => .malformed

def Defect.ofSeparator : Option Token → Defect
  | none => .ended
  | some _ => .malformed

def strayField (token : Option Token) : Fields :=
  match token with
  | some .null => .stray .nothing
  | some (.bool value) => .stray (.boolean value)
  | some (.number numeral) =>
    match numeral.number? with
    | some (.integer value) => .stray (.integer value)
    | some (.double negative value) => .stray (.double negative value)
    | none => .broken .malformed
  | some .leftBracket => .stray .sequence
  | some .leftBrace => .stray .map
  | token => .broken { Fault.ofName token with choice := (Fault.ofValue token).used }

def nextValue (stack : List Frame) : Option Token → Progress
  | some .null => give .null stack
  | some (.bool value) => give (.bool value) stack
  | some (.number numeral) => give (.number numeral) stack
  | some (.string text) => give (.string text) stack
  | some .leftBracket => .reading .firstItem (.array [] :: stack)
  | some .leftBrace => .reading .firstName (.object [] :: stack)
  | token => .stopped (stop (.broken (.ofValue token)) stack)

def nextName (bad : Option Token → Fields) : List Frame → Option Token → Progress
  | .object fields :: stack, some (.string text) => .reading .colon (.field fields text :: stack)
  | .object fields :: stack, token => .stopped (stop (.object (.ofReverse fields (bad token))) stack)
  | stack, token => .stopped (stop (.broken (.ofName token)) stack)

def nextSeparator : List Frame → Option Token → Progress
  | .array items :: stack, token =>
    match token with
    | some .comma => .reading .value (.array items :: stack)
    | some .rightBracket => give (.array (.ofReverse items .closed)) stack
    | token => .stopped (stop (.array (.ofReverse items (.broken (.ofSeparator token)))) stack)
  | .object fields :: stack, token =>
    match token with
    | some .comma => .reading .name (.object fields :: stack)
    | some .rightBrace => give (.object (.ofReverse fields .closed)) stack
    | token =>
      let defect := Defect.ofSeparator token
      .stopped (stop (.object (.ofReverse fields (.broken ⟨defect, defect, defect⟩))) stack)
  | stack, token => .stopped (stop (.broken (.ofName token)) stack)

def next (state : State) (stack : List Frame) (token : Option Token) : Progress :=
  match state with
  | .value => nextValue stack token
  | .firstItem =>
    match token, stack with
    | some .rightBracket, .array _ :: stack => give (.array .closed) stack
    | token, stack => nextValue stack token
  | .firstName =>
    match token, stack with
    | some .rightBrace, .object _ :: stack => give (.object .closed) stack
    | token, stack => nextName strayField stack token
  | .name => nextName (fun token => .dangling (.ofName token)) stack token
  | .colon =>
    match token with
    | some .colon => .reading .value stack
    | token => .stopped (stop (.broken (.ofName (token.map fun _ => .stray))) stack)
  | .separator => nextSeparator stack token

def Progress.advance : Progress → Token → Progress
  | .reading state stack, token => next state stack (some token)
  | .complete root, _ => .overrun root
  | progress, _ => progress

def Progress.finish : Progress → Document × Bool
  | .reading state stack =>
    match next state stack none with
    | .stopped root => (root, false)
    | _ => (.broken .ended, false)
  | .complete root => (root, false)
  | .overrun root => (root, true)
  | .stopped root => (root, false)

def Document.ofTokens (tokens : List Token) : Document × Bool :=
  (tokens.foldl Progress.advance (.reading .value [])).finish

end ConventionLint.Json
