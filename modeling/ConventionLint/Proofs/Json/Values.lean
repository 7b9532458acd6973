import ConventionLint.Proofs.Json.Records

namespace ConventionLint.Json

mutual

/-- The value of a document that has no defect, if it is made of texts and natural numbers. -/
def Document.value? : Document → Option Value
  | .null => some .null
  | .number numeral =>
    match numeral.number? with
    | some (.integer n) => if 0 ≤ n then some (.number n.toNat) else none
    | _ => none
  | .string (some text) => some (.string text)
  | .array items => items.values?.map .array
  | .object fields => fields.values?.map .object
  | _ => none

def Items.values? : Items → Option (List Value)
  | .closed => some []
  | .broken _ => none
  | .cons item tail =>
    match item.value?, tail.values? with
    | some value, some values => some (value :: values)
    | _, _ => none

def Fields.values? : Fields → Option (List (String × Value))
  | .closed => some []
  | .cons (some name) item tail =>
    match item.value?, tail.values? with
    | some value, some values => some ((name, value) :: values)
    | _, _ => none
  | _ => none

end

def parse? (text : String) : Option Value :=
  match Document.ofTokens (lex text.toList) with
  | (document, false) => document.value?
  | (_, true) => none

theorem parse_pretty (value : Value) : parse? value.pretty = value.document.value? := by
  rw [parse?, lex_pretty, ofTokens_tokens]

theorem parse_line (value : Value) : parse? (value.pretty ++ "\n") = value.document.value? := by
  have tokens : lex (value.pretty ++ "\n").toList = value.tokens := by
    have whole := lex_write value 0 ['\n'] (delimited_cons _ _ (by decide))
    rw [lex_blank '\n' [] rfl, lex, List.append_nil] at whole
    rw [String.toList_append, Value.pretty, String.toList_ofList]
    exact whole
  rw [parse?, tokens, ofTokens_tokens]

theorem value_text (text : String) :
    (Value.string text).document.value? = some (.string text) := by
  rw [Value.document, Document.value?]

theorem value_word (n : UInt32) :
    (Value.number n.toNat).document.value? = some (.number n.toNat) := by
  have bound : n.toNat < 4294967296 := n.toNat_lt
  have read := number_ofNat n.toNat (by unfold Numeral.wordLimit; omega)
  rw [Value.document, Document.value?, read]
  simp

theorem value_array {α : Type} (write : α → Value) (entries : List α)
    (back : ∀ entry, (write entry).document.value? = some (write entry)) :
    (Value.array (entries.map write)).document.value? = some (.array (entries.map write)) := by
  have items : (itemsOf (entries.map write)).values? = some (entries.map write) := by
    induction entries with
    | nil => rw [List.map_nil, itemsOf, Items.values?]
    | cons entry entries ih => simp only [List.map_cons, itemsOf, Items.values?, back, ih]
  rw [Value.document, Document.value?, items]
  rfl

theorem value_object (fields : List (String × Value))
    (back : ∀ field ∈ fields, field.2.document.value? = some field.2) :
    (Value.object fields).document.value? = some (.object fields) := by
  have values : (fieldsOf fields).values? = some fields := by
    induction fields with
    | nil => rw [fieldsOf, Fields.values?]
    | cons field fields ih =>
        have first := back field List.mem_cons_self
        have rest := ih fun other member => back other (List.mem_cons_of_mem field member)
        simp only [fieldsOf, Fields.values?, first, rest]
  rw [Value.document, Document.value?, values]
  rfl

end ConventionLint.Json
