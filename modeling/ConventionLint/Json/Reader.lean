import ConventionLint.Json.Document

/-!
Readers: typed data out of a document.

A reader goes through a document in the order of the text and stops at the first thing that is wrong,
be it a defect of the text or a value that does not fit.
-/
namespace ConventionLint.Json

inductive ReadError where
  | defect (defect : Defect)
  | mismatch (mismatch : Mismatch)
  deriving DecidableEq, Repr

def wording : Wording where
  nothing := "null"
  layout := ⟨.even, some (-4, 16)⟩

mutual

def Document.skip : Document → Except ReadError Unit
  | .array items => items.skip
  | .object fields => fields.skip
  | .broken fault => .error (.defect fault.skipped)
  | _ => .ok ()

def Items.skip : Items → Except ReadError Unit
  | .closed => .ok ()
  | .broken defect => .error (.defect defect)
  | .cons item tail =>
    match item.skip with
    | .ok _ => tail.skip
    | .error e => .error e

def Fields.skip : Fields → Except ReadError Unit
  | .closed => .ok ()
  | .broken fault => .error (.defect fault.skipped)
  | .dangling fault => .error (.defect fault.skipped)
  | .stray _ => .error (.defect .malformed)
  | .cons _ value tail =>
    match value.skip with
    | .ok _ => tail.skip
    | .error e => .error e

end

namespace Document

def found : Document → Except ReadError Found
  | .null => .ok .nothing
  | .bool value => .ok (.boolean value)
  | .number numeral =>
    match numeral.number? with
    | some (.integer value) => .ok (.integer value)
    | some (.double negative value) => .ok (.double negative value)
    | none => .error (.defect .malformed)
  | .string (some text) => .ok (.text text)
  | .string none => .error (.defect .malformed)
  | .array _ => .ok .sequence
  | .object _ => .ok .map
  | .broken fault => .error (.defect fault.used)

def refuse {α : Type} (document : Document) (expected : String) : Except ReadError α :=
  document.found.bind fun found => .error (.mismatch (.wrongType found expected))

def text : Document → Except ReadError String
  | .string (some text) => .ok text
  | document => document.refuse "a string"

/-- A number from 0 to 4294967295, written as an integer. -/
def word : Document → Except ReadError UInt32
  | .number numeral =>
    match numeral.number? with
    | some (.integer value) =>
      if 0 ≤ value ∧ value < 4294967296 then .ok value.toNat.toUInt32
      else .error (.mismatch (.outOfRange value "u32"))
    | _ => (Document.number numeral).refuse "u32"
  | document => document.refuse "u32"

def nullable {α : Type} (read : Document → Except ReadError α) : Document → Except ReadError (Option α)
  | .null => .ok none
  | document => (read document).map some

end Document

def Items.list {α : Type} (read : Document → Except ReadError α) : Items → Except ReadError (List α)
  | .closed => .ok []
  | .broken defect => .error (.defect defect)
  | .cons item tail =>
    match read item with
    | .error e => .error e
    | .ok value => (tail.list read).map (value :: ·)

def Document.list {α : Type} (read : Document → Except ReadError α) :
    Document → Except ReadError (List α)
  | .array items => items.list read
  | document => document.refuse "a sequence"

def chooseName {α : Type} (options : List α) (label : α → String) (name : String) : Except ReadError α :=
  match options.find? fun option => label option = name with
  | some option => .ok option
  | none => .error (.mismatch (.unknownVariant name (options.map label)))

/-- One of several values by its name: a string, or an object that has the name with the value null as
its only field. -/
def Document.choice {α : Type} (options : List α) (label : α → String) : Document → Except ReadError α
  | .string (some name) => chooseName options label name
  | .object (.cons (some name) value tail) => do
    let option ← chooseName options label name
    match value with
    | .null =>
      match tail with
      | .closed => .ok option
      | .broken fault => .error (.defect fault.used)
      | _ => .error (.defect .malformed)
    | value => value.refuse "unit"
  | .object (.stray found) => .error (.mismatch (.wrongType found "variant identifier"))
  | .object (.broken fault) => .error (.defect fault.choice)
  | .broken fault => .error (.defect fault.choice)
  | _ => .error (.defect .malformed)

structure Slot (σ : Type) where
  name : String
  required : Bool
  isSet : σ → Bool
  read : Document → σ → Except ReadError σ

def Fields.record {σ : Type} (slots : List (Slot σ)) (draft : σ) : Fields → Except ReadError σ
  | .closed => .ok draft
  | .broken fault => .error (.defect fault.used)
  | .dangling fault => .error (.defect fault.used)
  | .stray _ => .error (.defect .malformed)
  | .cons none _ _ => .error (.defect .malformed)
  | .cons (some name) value tail =>
    match slots.find? fun slot => slot.name = name with
    | none =>
      match value.skip with
      | .error e => .error e
      | .ok _ => tail.record slots draft
    | some slot =>
      if slot.isSet draft then .error (.mismatch (.duplicateField name))
      else
        match slot.read value draft with
        | .error e => .error e
        | .ok draft => tail.record slots draft

def Items.record {σ : Type} (name : String) (size index : Nat) (draft : σ) :
    List (Slot σ) → Items → Except ReadError σ
  | [], .closed => .ok draft
  | [], .broken defect => .error (.defect defect)
  | [], .cons _ _ => .error (.defect .malformed)
  | slot :: slots, .closed =>
    if slot.required then .error (.mismatch (.wrongLength index name size))
    else Items.record name size (index + 1) draft slots .closed
  | _ :: _, .broken defect => .error (.defect defect)
  | slot :: slots, .cons item tail =>
    match slot.read item draft with
    | .error e => .error e
    | .ok draft => Items.record name size (index + 1) draft slots tail

def Document.record {σ : Type} (name : String) (slots : List (Slot σ)) (draft : σ) :
    Document → Except ReadError σ
  | .array items => Items.record name slots.length 0 draft slots items
  | .object fields =>
    match fields.record slots draft with
    | .error e => .error e
    | .ok draft =>
      match slots.find? fun slot => slot.required && !slot.isSet draft with
      | some slot => .error (.mismatch (.missingField slot.name))
      | none => .ok draft
  | document => document.refuse ("struct " ++ name)

/-- Read a whole text. What follows the value is looked at last. -/
def readText {α : Type} (read : Document → Except ReadError α) (text : String) : Except ReadError α :=
  let (document, overrun) := Document.ofTokens (lex text.toList)
  match read document with
  | .error e => .error e
  | .ok value => if overrun then .error (.defect .malformed) else .ok value

end ConventionLint.Json
