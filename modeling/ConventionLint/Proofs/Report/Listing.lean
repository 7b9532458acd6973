import ConventionLint.Proofs.Json.Values
import ConventionLint.Report.Listing
import Mathlib.Data.List.Forall2

namespace ConventionLint.Report

open Json (Value parse?)

def tagged (models : List (String × List Diagnostic)) : List (String × Diagnostic) :=
  models.flatMap fun model => model.2.map fun diagnostic => (model.1, diagnostic)

/-- The fields of an element that holds a diagnostic and its model: these eight and no others. -/
structure Holds (fields : List (String × Value)) (model : String) (d : Diagnostic) : Prop where
  names : fields.map Prod.fst =
    ["model", "id", "severity", "category", "file", "start", "length", "messageText"]
  model : fields.lookup "model" = some (.string model)
  id : fields.lookup "id" = some (.string d.id)
  severity : fields.lookup "severity" = some (.string d.severity.label)
  category : fields.lookup "category" = some (.string d.category)
  file : fields.lookup "file" = some (.string d.file)
  start : fields.lookup "start" = some (.number d.start.toNat)
  length : fields.lookup "length" = some (.number d.length.toNat)
  message : fields.lookup "messageText" = some (.string d.message)

def textField? (fields : List (String × Value)) (name : String) : Option String :=
  match fields.lookup name with
  | some (.string text) => some text
  | _ => none

def wordField? (fields : List (String × Value)) (name : String) : Option UInt32 :=
  match fields.lookup name with
  | some (.number n) => if n < 4294967296 then some n.toUInt32 else none
  | _ => none

def severityOf? (label : String) : Option Severity :=
  [Severity.hidden, .info, .warning, .error].find? fun severity => severity.label = label

def diagnosticOf? : Value → Option (String × Diagnostic)
  | .object fields => do
    let model ← textField? fields "model"
    let id ← textField? fields "id"
    let severity ← (textField? fields "severity").bind severityOf?
    let category ← textField? fields "category"
    let file ← textField? fields "file"
    let start ← wordField? fields "start"
    let length ← wordField? fields "length"
    let message ← textField? fields "messageText"
    return (model, { id, severity, category, file, start, length, message })
  | _ => none

def recover? (text : String) : Option (List (String × Diagnostic)) :=
  match parse? text with
  | some (.array elements) => elements.mapM diagnosticOf?
  | _ => none

theorem severityOf_label (severity : Severity) : severityOf? severity.label = some severity := by
  cases severity <;> rfl

theorem textField_of_lookup (fields : List (String × Value)) (name text : String)
    (found : fields.lookup name = some (.string text)) : textField? fields name = some text := by
  rw [textField?, found]

theorem wordField_of_lookup (fields : List (String × Value)) (name : String) (word : UInt32)
    (found : fields.lookup name = some (.number word.toNat)) :
    wordField? fields name = some word := by
  have bound : word.toNat < 4294967296 := word.toNat_lt
  simp only [wordField?, found, bound, ↓reduceIte, Nat.toUInt32_eq, UInt32.ofNat_toNat]

theorem Holds.diagnosticOf (fields : List (String × Value)) (model : String) (d : Diagnostic)
    (holds : Holds fields model d) : diagnosticOf? (.object fields) = some (model, d) := by
  simp only [diagnosticOf?, textField_of_lookup _ _ _ holds.model,
    textField_of_lookup _ _ _ holds.id, textField_of_lookup _ _ _ holds.severity,
    textField_of_lookup _ _ _ holds.category, textField_of_lookup _ _ _ holds.file,
    wordField_of_lookup _ _ _ holds.start, wordField_of_lookup _ _ _ holds.length,
    textField_of_lookup _ _ _ holds.message, Option.bind_some, severityOf_label]
  rfl

theorem entry_holds (model : String) (d : Diagnostic) :
    ∃ fields, entry model d = .object fields ∧ Holds fields model d :=
  ⟨_, rfl, ⟨rfl, rfl, rfl, rfl, rfl, rfl, rfl, rfl, rfl⟩⟩

theorem value_entry (model : String) (d : Diagnostic) :
    (entry model d).document.value? = some (entry model d) := by
  apply Json.value_object
  intro field member
  simp only [List.mem_cons, List.not_mem_nil, or_false] at member
  rcases member with rfl | rfl | rfl | rfl | rfl | rfl | rfl | rfl
  · exact Json.value_text model
  · exact Json.value_text d.id
  · exact Json.value_text d.severity.label
  · exact Json.value_text d.category
  · exact Json.value_text d.file
  · exact Json.value_word d.start
  · exact Json.value_word d.length
  · exact Json.value_text d.message

theorem listing_eq (models : List (String × List Diagnostic)) :
    listing models = .array ((tagged models).map fun item => entry item.1 item.2) := by
  rw [listing, tagged, List.map_flatMap]
  simp only [List.map_map]
  rfl

theorem value_listing (models : List (String × List Diagnostic)) :
    (listing models).document.value? =
      some (.array ((tagged models).map fun item => entry item.1 item.2)) := by
  rw [listing_eq]
  exact Json.value_array _ _ fun item => value_entry item.1 item.2

theorem mapM_diagnosticOf (items : List (String × Diagnostic)) :
    (items.map fun item => entry item.1 item.2).mapM diagnosticOf? = some items := by
  induction items with
  | nil => rfl
  | cons item items ih =>
      obtain ⟨fields, written, holds⟩ := entry_holds item.1 item.2
      rw [List.map_cons, List.mapM_cons, written, holds.diagnosticOf, ih]
      rfl

/-- The text of a report is one array. Its elements are objects that hold the diagnostics of the models
in order, each with the model that it is from; and the diagnostics with their models are recovered
from the text. -/
theorem listing_recovered (models : List (String × List Diagnostic)) :
    (∃ elements, parse? (listing models).pretty = some (.array elements) ∧
      List.Forall₂ (fun element item => ∃ fields, element = .object fields ∧
        Holds fields item.1 item.2) elements (tagged models)) ∧
    recover? (listing models).pretty = some (tagged models) := by
  have parsed : parse? (listing models).pretty =
      some (.array ((tagged models).map fun item => entry item.1 item.2)) := by
    rw [Json.parse_pretty, value_listing]
  constructor
  · refine ⟨_, parsed, ?_⟩
    rw [List.forall₂_map_left_iff, List.forall₂_same]
    intro item _
    exact entry_holds item.1 item.2
  · rw [recover?, parsed]
    exact mapM_diagnosticOf (tagged models)

end ConventionLint.Report
