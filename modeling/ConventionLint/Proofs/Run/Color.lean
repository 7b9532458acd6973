import ConventionLint.Proofs.Report.Color
import ConventionLint.Proofs.Run.Outcome

namespace ConventionLint

open Report

structure ModelReport.EscapeFree (report : ModelReport) : Prop where
  sources : ∀ entry ∈ report.sources, Report.EscapeFree entry.2
  diagnostics : ∀ d ∈ report.diagnostics, d.EscapeFree

theorem ModelReport.render_escapeFree (report : ModelReport) (free : report.EscapeFree) :
    report.render.EscapeFree :=
  diagnostics_escapeFree report.sources free.sources report.diagnostics free.diagnostics

namespace Run

def styledOutput (reports : List ModelReport) : Styled :=
  ((reports.filter fun report => !report.diagnostics.isEmpty).flatMap fun report =>
    report.render ++ [⟨['\n'], none⟩]) ++ [⟨(textFooter (diagnostics reports)).toList, none⟩]

theorem join_blocks (color : Bool) (reports : List ModelReport) :
    String.join (reports.map (block color)) =
      Styled.write color (reports.flatMap fun report => report.render ++ [⟨['\n'], none⟩]) := by
  induction reports with
  | nil =>
      cases color with
      | false => rfl
      | true => rfl
  | cons report reports ih =>
      have newline : Styled.write color [⟨['\n'], none⟩] = "\n" := Styled.write_plain color "\n"
      rw [List.map_cons, String.join_cons, block, ih, List.flatMap_cons, Styled.write_append,
        Styled.write_append, newline]

theorem textOutput_eq_write (color : Bool) (reports : List ModelReport) :
    textOutput color reports = (styledOutput reports).write color := by
  rw [textOutput_eq, textBody, join_blocks, styledOutput, Styled.write_append, Styled.write_plain]

theorem textFooter_escapeFree (shown : List Diagnostic) : EscapeFree (textFooter shown) := by
  have line := not_mem_line (Tally.ofList shown) escape rfl (by decide)
  unfold textFooter
  split
  · simp [EscapeFree]
  · simp [EscapeFree, line, escape_ne]

theorem styledOutput_escapeFree (reports : List ModelReport)
    (free : ∀ report ∈ reports, report.EscapeFree) : (styledOutput reports).EscapeFree := by
  apply Styled.EscapeFree.append
  · intro fragment member
    obtain ⟨report, kept, inside⟩ := List.mem_flatMap.mp member
    rcases List.mem_append.mp inside with rendered | newline
    · exact report.render_escapeFree (free report (List.mem_filter.mp kept).1) fragment rendered
    · cases List.mem_singleton.mp newline
      simp [escape_ne]
  · intro fragment member
    cases List.mem_singleton.mp member
    exact textFooter_escapeFree (diagnostics reports)

/-- If no text that is shown has an escape character, removing the control sequences from diagnostics or
rules that are written with colours leaves what is written without. The same holds of all that a run
prints, and what it prints ends with the same summary in both cases. -/
theorem colors_only_decorate (texts : List (String × String)) (shown : List Diagnostic)
    (descriptors : List Descriptor) (reports : List ModelReport)
    (plainTexts : ∀ entry ∈ texts, EscapeFree entry.2)
    (plainDiagnostics : ∀ d ∈ shown, d.EscapeFree)
    (plainDescriptors : ∀ descriptor ∈ descriptors, descriptor.EscapeFree)
    (plainReports : ∀ report ∈ reports, report.EscapeFree) :
    uncolored ((Report.diagnostics (Sources.empty.addAll texts) shown).write true) =
      (Report.diagnostics (Sources.empty.addAll texts) shown).write false ∧
    uncolored ((rules descriptors).write true) = (rules descriptors).write false ∧
    uncolored (textOutput true reports) = textOutput false reports ∧
    ∀ color, textOutput color reports = textBody color reports ++
      match summary (diagnostics reports) with
      | some line => "\n" ++ line ++ "\n"
      | none => "" := by
  refine ⟨?_, ?_, ?_, fun color => rfl⟩
  · exact Styled.uncolored_write _ (diagnostics_escapeFree texts plainTexts shown plainDiagnostics)
  · exact Styled.uncolored_write _ (rules_escapeFree descriptors plainDescriptors)
  · rw [textOutput_eq_write, textOutput_eq_write]
    exact Styled.uncolored_write _ (styledOutput_escapeFree reports plainReports)

def tintedTexts : List (String × String) := [("a", "\tx\r\ny")]

def tintedDiagnostics : List Diagnostic :=
  [⟨"X1", .error, "c", "a", 0, 2, "m"⟩, ⟨"", .hidden, "c", "", 3, 4, ""⟩]

theorem tinted_decorated :
    (∀ entry ∈ tintedTexts, EscapeFree entry.2) ∧ (∀ d ∈ tintedDiagnostics, d.EscapeFree) ∧
      (∀ descriptor ∈ [ImmutableByConvention.descriptor], descriptor.EscapeFree) ∧
      uncolored ((Report.diagnostics (Sources.empty.addAll tintedTexts) tintedDiagnostics).write true) =
        (Report.diagnostics (Sources.empty.addAll tintedTexts) tintedDiagnostics).write false ∧
      uncolored ((rules [ImmutableByConvention.descriptor]).write true) =
        (rules [ImmutableByConvention.descriptor]).write false ∧
      uncolored (textOutput true [⟨⟨"m"⟩, tintedDiagnostics, tintedTexts⟩]) =
        textOutput false [⟨⟨"m"⟩, tintedDiagnostics, tintedTexts⟩] := by
  have texts : ∀ entry ∈ tintedTexts, EscapeFree entry.2 := by
    intro entry member
    cases List.mem_singleton.mp member
    decide
  have shown : ∀ d ∈ tintedDiagnostics, d.EscapeFree := by
    intro d member
    simp only [tintedDiagnostics, List.mem_cons, List.not_mem_nil, or_false] at member
    rcases member with rfl | rfl
    · constructor <;> decide
    · constructor <;> decide
  have descriptors : ∀ descriptor ∈ [ImmutableByConvention.descriptor], descriptor.EscapeFree := by
    intro descriptor member
    cases List.mem_singleton.mp member
    constructor <;> decide
  have reports : ∀ report ∈ [(⟨⟨"m"⟩, tintedDiagnostics, tintedTexts⟩ : ModelReport)],
      report.EscapeFree := by
    intro report member
    cases List.mem_singleton.mp member
    exact ⟨texts, shown⟩
  obtain ⟨first, second, third, _⟩ := colors_only_decorate tintedTexts tintedDiagnostics
    [ImmutableByConvention.descriptor] _ texts shown descriptors reports
  exact ⟨texts, shown, descriptors, first, second, third⟩

end Run

end ConventionLint
