import ConventionLint.Program.Basic
import ConventionLint.Proofs.LineMap.Positions
import ConventionLint.Report.Text
import Mathlib.Data.List.Nodup

namespace ConventionLint

namespace Report

def heading (place : List Char) (d : Diagnostic) : Styled :=
  [⟨place ++ [' ', '-', ' '], none⟩, ⟨d.severity.label.toList, some (severityStyle d.severity)⟩,
    ⟨[' '], none⟩, ⟨d.id.toList, some .rule⟩, ⟨':' :: ' ' :: d.message.toList, none⟩]

def namedPosition (file : String) (position : Position) : List Char :=
  file.toList ++ ':' :: Decimal.ofNat (position.line + 1) ++ ':' :: Decimal.ofNat (position.column + 1)

def bareName (file : String) : List Char :=
  if file.isEmpty then "<unknown>".toList else file.toList

/-- A diagnostic is shown with the text of this file, and with no other text. -/
structure ShownFrom (file : SourceFile) (d : Diagnostic) (place : List Char) (extract : Styled) :
    Prop where
  positioned : ∀ text, file.text = some text →
    place = namedPosition file.name ((LineMap.ofText text).position d.start.toNat)
  unpositioned : place = bareName file.name ↔ file.text = none
  extracted : ∀ text, file.text = some text → extract = snippet (LineMap.ofText text) d
  unextracted : extract = [] ↔ file.text = none ∨ d.length = 0

def textsOf (files : List SourceFile) : List (String × String) :=
  files.filterMap fun file => file.text.map fun text => (file.name, text)

theorem namedPosition_ne_bareName (file : String) (position : Position) :
    namedPosition file position ≠ bareName file := by
  intro same
  unfold namedPosition bareName at same
  split at same
  · next empty =>
      rw [String.isEmpty_iff.mp empty] at same
      simp at same
  · simp at same

theorem snippet_eq_nil_iff (text : String) (d : Diagnostic) :
    snippet (LineMap.ofText text) d = [] ↔ d.length = 0 := by
  have bound : ((LineMap.ofText text).position d.start.toNat).line < (LineMap.ofText text).lines.length :=
    LineMap.locate_line_lt _ _ (Line.split_ne_nil _)
  constructor
  · intro missing
    by_contra covers
    simp only [snippet, if_neg covers, LineMap.lineText, List.getElem?_eq_getElem bound,
      Option.map_some, reduceCtorEq] at missing
  · intro empty
    exact if_pos empty

namespace Sources

theorem get_add (sources : Sources) (file text name : String) :
    (sources.add file text).get? name =
      if name = file then some (LineMap.ofText text) else sources.get? name := by
  by_cases same : name = file
  · simp [get?, add, same]
  · simp [get?, add, same, List.lookup_cons, beq_eq_false_iff_ne.mpr same]

theorem get_addAll_of_not_mem (sources : Sources) (texts : List (String × String)) (name : String)
    (absent : name ∉ texts.map Prod.fst) : (sources.addAll texts).get? name = sources.get? name := by
  induction texts generalizing sources with
  | nil => rfl
  | cons entry texts ih =>
      obtain ⟨other, later⟩ := not_or.mp (mt List.mem_cons.mpr absent)
      calc
        _ = (sources.add entry.1 entry.2).get? name := ih _ later
        _ = sources.get? name := by rw [get_add, if_neg other]

theorem get_addAll_of_mem (sources : Sources) (texts : List (String × String)) (name text : String)
    (distinct : (texts.map Prod.fst).Nodup) (member : (name, text) ∈ texts) :
    (sources.addAll texts).get? name = some (LineMap.ofText text) := by
  induction texts generalizing sources with
  | nil => cases member
  | cons entry texts ih =>
      obtain ⟨absent, rest⟩ := List.nodup_cons.mp distinct
      rcases List.mem_cons.mp member with rfl | later
      · exact (get_addAll_of_not_mem _ texts name absent).trans (by simp [get_add])
      · exact ih _ rest later

end Sources

theorem names_textsOf_sublist (files : List SourceFile) :
    ((textsOf files).map Prod.fst).Sublist (files.map SourceFile.name) := by
  induction files with
  | nil => exact .slnil
  | cons file files ih =>
      cases carried : file.text with
      | none =>
          simp only [textsOf, List.filterMap_cons, carried, Option.map_none]
          exact ih.cons file.name
      | some text =>
          simp only [textsOf, List.filterMap_cons, carried, Option.map_some]
          exact ih.cons_cons file.name

theorem get_textsOf (files : List SourceFile) (distinct : (files.map SourceFile.name).Nodup)
    (file : SourceFile) (listed : file ∈ files) :
    (Sources.empty.addAll (textsOf files)).get? file.name = file.text.map LineMap.ofText := by
  cases carried : file.text with
  | none =>
      apply Sources.get_addAll_of_not_mem
      intro member
      obtain ⟨entry, inside, same⟩ := List.mem_map.mp member
      obtain ⟨other, listed', carries⟩ := List.mem_filterMap.mp inside
      obtain ⟨text, found, rfl⟩ := Option.map_eq_some_iff.mp carries
      obtain rfl := List.inj_on_of_nodup_map distinct listed' listed same
      rw [carried] at found
      cases found
  | some text =>
      apply Sources.get_addAll_of_mem
      · exact distinct.sublist (names_textsOf_sublist files)
      · apply List.mem_filterMap.mpr
        exact ⟨file, listed, by rw [carried]; rfl⟩

theorem diagnostics_eq_intercalate (sources : Sources) (shown : List Diagnostic) :
    diagnostics sources shown = [⟨['\n'], none⟩].intercalate (shown.map (diagnostic sources)) := by
  fun_induction diagnostics sources shown with
  | case1 => rfl
  | case2 d => simp [List.intercalate]
  | case3 d next rest ih =>
      rw [ih]
      simp [List.intercalate]

theorem ShownFrom.without (file : SourceFile) (d : Diagnostic) (absent : file.text = none) :
    ShownFrom file d (bareName file.name) [] where
  positioned text present := by
    rw [absent] at present
    cases present
  unpositioned := by simp [absent]
  extracted text present := by
    rw [absent] at present
    cases present
  unextracted := by simp [absent]

theorem ShownFrom.within (file : SourceFile) (d : Diagnostic) (text : String)
    (present : file.text = some text) :
    ShownFrom file d (namedPosition file.name ((LineMap.ofText text).position d.start.toNat))
      (snippet (LineMap.ofText text) d) where
  positioned other same := by
    rw [Option.some.inj (present.symm.trans same)]
  unpositioned := by simp [present, namedPosition_ne_bareName]
  extracted other same := by
    rw [Option.some.inj (present.symm.trans same)]
  unextracted := by simp [present, snippet_eq_nil_iff]

theorem shownFrom_of_distinct (files : List SourceFile)
    (distinct : (files.map SourceFile.name).Nodup) (file : SourceFile) (listed : file ∈ files)
    (d : Diagnostic) (here : d.file = file.name) :
    ∃ place extract, diagnostic (Sources.empty.addAll (textsOf files)) d = heading place d ++ extract ∧
      ShownFrom file d place extract := by
  have known := get_textsOf files distinct file listed
  rw [← here] at known
  cases carried : file.text with
  | none =>
      rw [carried, Option.map_none] at known
      refine ⟨_, _, ?_, .without file d carried⟩
      simp only [diagnostic, place, known, ← here]
      rfl
  | some text =>
      rw [carried, Option.map_some] at known
      refine ⟨_, _, ?_, .within file d text carried⟩
      simp only [diagnostic, place, known, ← here]
      rfl

end Report

end ConventionLint
