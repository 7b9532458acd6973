import ConventionLint.Program.Writer
import ConventionLint.Proofs.Json.Tree

namespace ConventionLint.Json

theorem number_ofNat (n : Nat) (fits : n < Numeral.wordLimit) :
    (Numeral.ofNat n).number? = some (.integer n) := by
  simp [Numeral.number?, Numeral.ofNat, Decimal.value_ofNat, fits]

theorem word_number (n : UInt32) : (Value.number n.toNat).document.word = .ok n := by
  have bound : n.toNat < 4294967296 := n.toNat_lt
  have read := number_ofNat n.toNat (by unfold Numeral.wordLimit; omega)
  have inRange : (0 : Int) ≤ n.toNat ∧ (n.toNat : Int) < 4294967296 := by omega
  simp only [Value.document, Document.word, read, inRange, and_self, ↓reduceIte, Int.toNat_natCast]
  rw [Nat.toUInt32_eq, UInt32.ofNat_toNat]

theorem list_array {α : Type} (read : Document → Except ReadError α) (write : α → Value)
    (back : ∀ entry, read (write entry).document = .ok entry) (entries : List α) :
    (Value.array (entries.map write)).document.list read = .ok entries := by
  rw [Value.document, Document.list]
  induction entries with
  | nil => rfl
  | cons entry entries ih =>
      rw [List.map_cons, itemsOf, Items.list, back, ih]
      rfl

theorem list_nonempty {α : Type} (read : Document → Except ReadError α) (write : α → Value)
    (back : ∀ entry, read (write entry).document = .ok entry) (entries : List α) (value : Value)
    (written : (if entries.isEmpty then none else some (Value.array (entries.map write))) =
      some value) : value.document.list read = .ok entries := by
  split at written
  · cases written
  · cases written
    exact list_array read write back entries

theorem eq_nil_of_skipped {α : Type} (write : α → Value) (entries : List α)
    (skipped : (if entries.isEmpty then none else some (Value.array (entries.map write))) = none) :
    entries = [] := by
  split at skipped
  · next empty => exact List.isEmpty_iff.mp empty
  · cases skipped

theorem nullable_text (text : Option String) (value : Value)
    (written : text.map Value.string = some value) :
    value.document.nullable Document.text = .ok text := by
  obtain ⟨content, rfl, rfl⟩ := Option.map_eq_some_iff.mp written
  rfl

theorem choice_label {α : Type} (options : List α) (label : α → String) (option : α)
    (listed : (options.find? fun other => label other = label option) = some option) :
    (Value.string (label option)).document.choice options label = .ok option := by
  rw [Value.document, Document.choice, chooseName, listed]

section Fields

variable {σ β : Type} (slots : List (Slot σ)) (slot : Slot σ) (name : String)
  (set : Option β → σ) (reader : Document → Except ReadError β) (content : β)

theorem record_field (value : Value) (rest : List (String × Value))
    (found : slots.find? (fun slot => slot.name = name) = some slot)
    (unset : slot.isSet (set none) = false)
    (puts : ∀ document, slot.read document (set none) =
      (reader document).map fun content => set (some content))
    (read : reader value.document = .ok content) :
    (fieldsOf ((name, value) :: rest)).record slots (set none) =
      (fieldsOf rest).record slots (set (some content)) := by
  rw [fieldsOf, Fields.record, found]
  simp only [unset, Bool.false_eq_true, ↓reduceIte, puts, read, Except.map]

theorem record_optional (field : Option Value) (rest : List (String × Value))
    (found : slots.find? (fun slot => slot.name = name) = some slot)
    (unset : slot.isSet (set none) = false)
    (puts : ∀ document, slot.read document (set none) =
      (reader document).map fun content => set (some content))
    (read : ∀ value, field = some value → reader value.document = .ok content) :
    (fieldsOf (optional name field ++ rest)).record slots (set none) =
      (fieldsOf rest).record slots (set (field.map fun _ => content)) := by
  cases field with
  | none => rfl
  | some value =>
      exact record_field slots slot name set reader content value rest found unset puts
        (read value rfl)

theorem record_last (field : Option Value)
    (found : slots.find? (fun slot => slot.name = name) = some slot)
    (unset : slot.isSet (set none) = false)
    (puts : ∀ document, slot.read document (set none) =
      (reader document).map fun content => set (some content))
    (read : ∀ value, field = some value → reader value.document = .ok content) :
    (fieldsOf (optional name field)).record slots (set none) =
      .ok (set (field.map fun _ => content)) := by
  have step := record_optional slots slot name set reader content field [] found unset puts read
  rw [List.append_nil] at step
  exact step

/-- A field has its content in both cases if it is left out only with its default. -/
theorem getD_written (field : Option Value) (default : β)
    (skipped : field = none → content = default) :
    (field.map fun _ => content).getD default = content := by
  cases field with
  | none => exact (skipped rfl).symm
  | some value => rfl

theorem record_object (draft final : σ) (fields : List (String × Value))
    (read : (fieldsOf fields).record slots draft = .ok final)
    (complete : slots.find? (fun slot => slot.required && !slot.isSet final) = none) :
    (Value.object fields).document.record name slots draft = .ok final := by
  rw [Value.document, Document.record, read]
  simp only [complete]

end Fields

end ConventionLint.Json
