import ConventionLint.Json.Reader
import ConventionLint.Proofs.Json.Lexing

/-!
The tree of a written value.

The automaton takes the tokens of a value in whatever is open and then goes on as with a value that is
complete there. So the text of a value is read as the document of the value, without defect and with
nothing left.
-/
namespace ConventionLint.Json

mutual

def Value.document : Value → Document
  | .null => .null
  | .number n => .number (.ofNat n)
  | .string text => .string (some text)
  | .array items => .array (itemsOf items)
  | .object fields => .object (fieldsOf fields)

def itemsOf : List Value → Items
  | [] => .closed
  | item :: items => .cons item.document (itemsOf items)

def fieldsOf : List (String × Value) → Fields
  | [] => .closed
  | (name, value) :: fields => .cons (some name) value.document (fieldsOf fields)

end

theorem exists_first_token (value : Value) :
    ∃ token tokens, value.tokens = token :: tokens ∧ token ≠ .rightBracket := by
  cases value with
  | null => exact ⟨.null, [], by rw [Value.tokens], by simp⟩
  | number n => exact ⟨.number (.ofNat n), [], by rw [Value.tokens], by simp⟩
  | string text => exact ⟨.string (some text), [], by rw [Value.tokens], by simp⟩
  | array items =>
      cases items with
      | nil => exact ⟨.leftBracket, _, by rw [Value.tokens], by simp⟩
      | cons item items => exact ⟨.leftBracket, _, by rw [Value.tokens]; rfl, by simp⟩
  | object fields =>
      cases fields with
      | nil => exact ⟨.leftBrace, _, by rw [Value.tokens], by simp⟩
      | cons field fields =>
          obtain ⟨name, value⟩ := field
          exact ⟨.leftBrace, _, by rw [Value.tokens]; rfl, by simp⟩

theorem foldl_firstItem (value : Value) (stack : List Frame) :
    value.tokens.foldl Progress.advance (.reading .firstItem stack) =
      value.tokens.foldl Progress.advance (.reading .value stack) := by
  obtain ⟨token, tokens, first, other⟩ := exists_first_token value
  rw [first, List.foldl_cons, List.foldl_cons]
  congr 1
  simp only [Progress.advance, next]
  split
  · next _ _ _ same => exact absurd (Option.some.inj same) other
  · rfl

mutual

theorem foldl_tokens (value : Value) (stack : List Frame) :
    value.tokens.foldl Progress.advance (.reading .value stack) = give value.document stack := by
  match value with
  | .null =>
      rw [Value.tokens, Value.document]
      rfl
  | .number n =>
      rw [Value.tokens, Value.document]
      rfl
  | .string text =>
      rw [Value.tokens, Value.document]
      rfl
  | .array [] =>
      rw [Value.tokens, Value.document, itemsOf]
      rfl
  | .array (item :: items) =>
      rw [Value.tokens, Value.document, itemsOf, List.append_assoc, List.cons_append,
        List.foldl_cons, List.foldl_append]
      have opened : Progress.advance (.reading .value stack) .leftBracket =
          .reading .firstItem (.array [] :: stack) := rfl
      rw [opened, foldl_firstItem, foldl_tokens item]
      exact foldl_itemTokens items [item.document] stack
  | .object [] =>
      rw [Value.tokens, Value.document, fieldsOf]
      rfl
  | .object ((name, value) :: fields) =>
      rw [Value.tokens, Value.document, fieldsOf, List.append_assoc, List.cons_append,
        List.cons_append, List.cons_append, List.foldl_cons, List.foldl_cons, List.foldl_cons,
        List.foldl_append]
      have opened : Progress.advance (Progress.advance (Progress.advance (.reading .value stack)
          .leftBrace) (.string (some name))) .colon =
          .reading .value (.field [] (some name) :: stack) := rfl
      rw [opened, foldl_tokens value]
      exact foldl_fieldTokens fields [(some name, value.document)] stack

theorem foldl_itemTokens (items : List Value) (before : List Document) (stack : List Frame) :
    (itemTokens items ++ [Token.rightBracket]).foldl Progress.advance
        (.reading .separator (.array before :: stack)) =
      give (.array (.ofReverse before (itemsOf items))) stack := by
  match items with
  | [] =>
      rw [itemTokens, itemsOf]
      rfl
  | item :: items =>
      rw [itemTokens, itemsOf, List.append_assoc, List.cons_append, List.foldl_cons,
        List.foldl_append]
      have separated : Progress.advance (.reading .separator (.array before :: stack)) .comma =
          .reading .value (.array before :: stack) := rfl
      rw [separated, foldl_tokens item]
      exact foldl_itemTokens items (item.document :: before) stack

theorem foldl_fieldTokens (fields : List (String × Value))
    (before : List (Option String × Document)) (stack : List Frame) :
    (fieldTokens fields ++ [Token.rightBrace]).foldl Progress.advance
        (.reading .separator (.object before :: stack)) =
      give (.object (.ofReverse before (fieldsOf fields))) stack := by
  match fields with
  | [] =>
      rw [fieldTokens, fieldsOf]
      rfl
  | (name, value) :: fields =>
      rw [fieldTokens, fieldsOf, List.append_assoc, List.cons_append, List.cons_append,
        List.cons_append, List.foldl_cons, List.foldl_cons, List.foldl_cons, List.foldl_append]
      have separated : Progress.advance (Progress.advance (Progress.advance
          (.reading .separator (.object before :: stack)) .comma) (.string (some name))) .colon =
          .reading .value (.field before (some name) :: stack) := rfl
      rw [separated, foldl_tokens value]
      exact foldl_fieldTokens fields ((some name, value.document) :: before) stack

end

theorem ofTokens_tokens (value : Value) :
    Document.ofTokens value.tokens = (value.document, false) := by
  rw [Document.ofTokens, foldl_tokens]
  rfl

/-- A reader gets the document of a value from its text, and nothing is left over. -/
theorem readText_pretty {α : Type} (read : Document → Except ReadError α) (value : Value) :
    readText read value.pretty = read value.document := by
  rw [readText, lex_pretty, ofTokens_tokens]
  cases result : read value.document with
  | error e => simp only [result]
  | ok found => simp only [result, Bool.false_eq_true, ↓reduceIte]

end ConventionLint.Json
