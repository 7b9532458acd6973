import ConventionLint.Program.Reader
import ConventionLint.Proofs.Json.Records

/-!
Programs that are written and read back.

For each kind of record: the document of its written form is read as the record itself. Field by
field, what is written is read back, and what is left out is the default of its reader.
-/
namespace ConventionLint

open Json (Value Document record_field record_optional record_last record_object getD_written)

namespace Ref

variable {arena : Arena}

theorem read_toValue (ref : Ref arena) : read ref.toValue.document = .ok ref := by
  rw [read, toValue, position, Json.word_number]
  rfl

theorem read_of_toValue? (ref : Ref arena) (value : Value) (written : ref.toValue? = some value) :
    read value.document = .ok ref := by
  unfold toValue? at written
  split at written
  · cases written
  · cases written
    exact ref.read_toValue

theorem eq_absent_of_toValue? (ref : Ref arena) (skipped : ref.toValue? = none) :
    ref = .absent := by
  unfold toValue? at skipped
  split at skipped
  · next absent => exact eq_of_beq absent
  · cases skipped

theorem list_of_listValue? (refs : List (Ref arena)) (value : Value)
    (written : listValue? refs = some value) : value.document.list read = .ok refs :=
  Json.list_nonempty read toValue read_toValue refs value written

theorem eq_nil_of_listValue? (refs : List (Ref arena)) (skipped : listValue? refs = none) :
    refs = [] :=
  Json.eq_nil_of_skipped toValue refs skipped

end Ref

theorem Span.read_toValue (span : Span) : read span.toValue.document = .ok span := by
  rw [read, toValue, record_object slots "Span" {} ⟨some span.start, some span.stop⟩ _ ?_ rfl]
  · rfl
  · rw [record_field slots _ "start" (fun start => ⟨start, none⟩) Document.word span.start
        _ _ rfl rfl (fun _ => rfl) (Json.word_number span.start),
      record_field slots _ "end" (fun stop => ⟨some span.start, stop⟩) Document.word span.stop
        _ _ rfl rfl (fun _ => rfl) (Json.word_number span.stop)]
    rfl

theorem Attribute.read_toValue (marker : Attribute) :
    read marker.toValue.document = .ok marker := by
  rw [read, toValue, record_object slots "AttributeData" {}
    ⟨some marker.name, (marker.scope.map Value.string).map fun _ => marker.scope⟩ _ ?_ rfl]
  · simp only [Except.map, Draft.toAttribute, Option.getD_some]
    rw [getD_written marker.scope _ none (by simp)]
  · rw [record_field slots _ "name" (fun name => ⟨name, none⟩) Document.text marker.name
        _ _ rfl rfl (fun _ => rfl) rfl,
      record_last slots _ "namespace" (fun scope => ⟨some marker.name, scope⟩)
        (Document.nullable Document.text) marker.scope _ rfl rfl (fun _ => rfl)
        (Json.nullable_text marker.scope)]

theorem TypeDecl.read_toValue (decl : TypeDecl) : read decl.toValue.document = .ok decl := by
  rw [read, toValue, record_object slots "TypeDecl" {}
    ⟨some decl.name, (decl.scope.map Value.string).map fun _ => decl.scope,
      decl.baseType.toValue?.map fun _ => decl.baseType,
      (if decl.attributes.isEmpty then none
        else some (Value.array (decl.attributes.map Attribute.toValue))).map
          fun _ => decl.attributes⟩ _ ?_ rfl]
  · simp only [Except.map, Draft.toTypeDecl, Option.getD_some]
    rw [getD_written decl.scope _ none (by simp),
      getD_written decl.baseType _ .absent decl.baseType.eq_absent_of_toValue?,
      getD_written decl.attributes _ [] (Json.eq_nil_of_skipped _ decl.attributes)]
  · simp only [List.cons_append, List.append_assoc]
    rw [record_field slots _ "name" (fun name => ⟨name, none, none, none⟩) Document.text decl.name
        _ _ rfl rfl (fun _ => rfl) rfl,
      record_optional slots _ "namespace" (fun scope => ⟨some decl.name, scope, none, none⟩)
        (Document.nullable Document.text) decl.scope _ _ rfl rfl (fun _ => rfl)
        (Json.nullable_text decl.scope),
      record_optional slots _ "baseType" (fun base => ⟨some decl.name, _, base, none⟩)
        Ref.read decl.baseType _ _ rfl rfl (fun _ => rfl) decl.baseType.read_of_toValue?,
      record_last slots _ "attributes" (fun attributes => ⟨some decl.name, _, _, attributes⟩)
        (Document.list Attribute.read) decl.attributes _ rfl rfl (fun _ => rfl)
        (Json.list_nonempty _ _ Attribute.read_toValue decl.attributes)]

theorem PropertyDecl.read_toValue (decl : PropertyDecl) :
    read decl.toValue.document = .ok decl := by
  rw [read, toValue, record_object slots "PropertyDecl" {}
    ⟨some decl.name, some decl.containingType⟩ _ ?_ rfl]
  · rfl
  · rw [record_field slots _ "name" (fun name => ⟨name, none⟩) Document.text decl.name
        _ _ rfl rfl (fun _ => rfl) rfl,
      record_field slots _ "containingType" (fun owner => ⟨some decl.name, owner⟩) Ref.read
        decl.containingType _ _ rfl rfl (fun _ => rfl) decl.containingType.read_toValue]
    rfl

theorem OperationKind.read_label (kind : OperationKind) :
    (Value.string kind.label).document.choice all label = .ok kind := by
  apply Json.choice_label
  cases kind <;> rfl

theorem SourceForm.read_label (form : SourceForm) :
    (Value.string form.label).document.choice all label = .ok form := by
  apply Json.choice_label
  cases form <;> rfl

theorem Operation.read_toValue (operation : Operation) :
    read operation.toValue.document = .ok operation := by
  rw [read, toValue, record_object slots "Operation" {}
    ⟨some operation.kind, some operation.form, some operation.span,
      (Ref.listValue? operation.children).map fun _ => operation.children,
      operation.property.toValue?.map fun _ => operation.property⟩ _ ?_ rfl]
  · simp only [Except.map, Draft.toOperation, Option.getD_some]
    rw [getD_written operation.children _ [] (Ref.eq_nil_of_listValue? operation.children),
      getD_written operation.property _ .absent operation.property.eq_absent_of_toValue?]
  · simp only [List.cons_append, List.nil_append]
    rw [record_field slots _ "kind" (fun kind => ⟨kind, none, none, none, none⟩)
        (Document.choice OperationKind.all OperationKind.label) operation.kind
        _ _ rfl rfl (fun _ => rfl) operation.kind.read_label,
      record_field slots _ "syntax" (fun form => ⟨some operation.kind, form, none, none, none⟩)
        (Document.choice SourceForm.all SourceForm.label) operation.form
        _ _ rfl rfl (fun _ => rfl) operation.form.read_label,
      record_field slots _ "span" (fun span => ⟨_, some operation.form, span, none, none⟩)
        Span.read operation.span _ _ rfl rfl (fun _ => rfl) operation.span.read_toValue,
      record_optional slots _ "children"
        (fun children => ⟨_, _, some operation.span, children, none⟩)
        (Document.list Ref.read) operation.children _ _ rfl rfl (fun _ => rfl)
        (Ref.list_of_listValue? operation.children),
      record_last slots _ "property" (fun property => ⟨_, _, some operation.span, _, property⟩)
        Ref.read operation.property _ rfl rfl (fun _ => rfl) operation.property.read_of_toValue?]

theorem SourceFile.read_toValue (file : SourceFile) : read file.toValue.document = .ok file := by
  rw [read, toValue, record_object slots "SourceFile" {}
    ⟨some file.name, (file.text.map Value.string).map fun _ => file.text,
      some file.operations.toList, (Ref.listValue? file.roots).map fun _ => file.roots⟩ _ ?_ rfl]
  · simp only [Except.map, Draft.toSourceFile, Option.getD_some]
    rw [getD_written file.text _ none (by simp),
      getD_written file.roots _ [] (Ref.eq_nil_of_listValue? file.roots)]
  · simp only [List.cons_append]
    rw [record_field slots _ "name" (fun name => ⟨name, none, none, none⟩) Document.text file.name
        _ _ rfl rfl (fun _ => rfl) rfl,
      record_optional slots _ "text" (fun text => ⟨some file.name, text, none, none⟩)
        (Document.nullable Document.text) file.text _ _ rfl rfl (fun _ => rfl)
        (Json.nullable_text file.text),
      record_field slots _ "operations" (fun operations => ⟨some file.name, _, operations, none⟩)
        (Document.list Operation.read) file.operations.toList _ _ rfl rfl (fun _ => rfl)
        (Json.list_array _ _ Operation.read_toValue _),
      record_last slots _ "roots" (fun roots => ⟨some file.name, _, _, roots⟩)
        (Document.list Ref.read) file.roots _ rfl rfl (fun _ => rfl)
        (Ref.list_of_listValue? file.roots)]

namespace Program

theorem read_toValue (program : Program) : read program.toValue.document = .ok program := by
  rw [read, toValue, record_object slots "Program" {}
    ⟨some program.types.toList, some program.properties.toList, some program.files⟩ _ ?_ rfl]
  · rfl
  · rw [record_field slots _ "types" (fun types => ⟨types, none, none⟩)
        (Document.list TypeDecl.read) program.types.toList _ _ rfl rfl (fun _ => rfl)
        (Json.list_array _ _ TypeDecl.read_toValue _),
      record_field slots _ "properties" (fun properties => ⟨_, properties, none⟩)
        (Document.list PropertyDecl.read) program.properties.toList _ _ rfl rfl (fun _ => rfl)
        (Json.list_array _ _ PropertyDecl.read_toValue _),
      record_field slots _ "files" (fun files => ⟨_, _, files⟩)
        (Document.list SourceFile.read) program.files _ _ rfl rfl (fun _ => rfl)
        (Json.list_array _ _ SourceFile.read_toValue _)]
    rfl

theorem ofJson_toJson (program : Program) : ofJson program.toJson = .ok program := by
  rw [ofJson, toJson, Json.readText_pretty]
  exact program.read_toValue

/-- Every program is read back from its written form. So different programs are written differently,
and writing what was read from any text gives a text that is read and written unchanged. -/
theorem toJson_roundTrip :
    (∀ program, ofJson program.toJson = .ok program) ∧ Function.Injective toJson ∧
      ∀ text program, ofJson text = .ok program →
        (ofJson program.toJson).map toJson = .ok program.toJson := by
  refine ⟨ofJson_toJson, ?_, ?_⟩
  · intro first second same
    have read := ofJson_toJson first
    rw [same, ofJson_toJson] at read
    exact (Except.ok.inj read).symm
  · intro text program _
    rw [ofJson_toJson]
    rfl

def awkward : Program where
  types :=
    #[⟨"\"\\\n\x01", some "", .absent, []⟩, ⟨"é😀", none, ⟨4294967294⟩, [⟨"", some "\x1f/\x7f"⟩]⟩]
  properties := #[⟨"", .absent⟩, ⟨"p", ⟨7⟩⟩]
  files :=
    [⟨"a", some "", #[], [.absent]⟩,
      ⟨"b", none, #[⟨.other, .implicit, ⟨4294967295, 0⟩, [.absent, ⟨0⟩], .absent⟩], []⟩]

theorem awkward_roundTrip :
    ofJson awkward.toJson = .ok awkward ∧
      (ofJson awkward.toJson).map toJson = .ok awkward.toJson := by
  have read := toJson_roundTrip.1 awkward
  exact ⟨read, toJson_roundTrip.2.2 awkward.toJson awkward read⟩

end Program

end ConventionLint
