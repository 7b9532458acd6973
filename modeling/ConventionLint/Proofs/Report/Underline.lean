import ConventionLint.Proofs.LineMap.Spans
import ConventionLint.Proofs.Report.Placement

/-!
The marks below the line of a diagnostic.

The marks are blanks up to the column where the diagnostic starts and tildes up to the column where it
ends, or up to the end of the line; there is always a tilde. If both ends are on boundaries of
characters, the tildes stand under exactly those characters of the line that the diagnostic covers. The
column of an end inside a character is zero, and then the only tilde stands at the start of the line.
-/
namespace ConventionLint.Report

def width : List Char → Nat
  | [] => 0
  | c :: line => cells c + width line

theorem cells_pos (c : Char) : 0 < cells c := by
  unfold cells
  split
  · decide
  · decide

theorem width_pos (line : List Char) (inhabited : line ≠ []) : 0 < width line := by
  cases line with
  | nil => exact absurd rfl inhabited
  | cons c line => exact Nat.add_pos_left (cells_pos c) (width line)

theorem flatMap_cells (mark : Char) (line : List Char) :
    line.flatMap (fun c => List.replicate (cells c) mark) = List.replicate (width line) mark := by
  induction line with
  | nil => rfl
  | cons c line ih => rw [List.flatMap_cons, ih, List.replicate_append_replicate, width]

/-- Blanks stop at the first of the two columns, and one tilde stands for none. -/
theorem underline_eq (line : List Char) (first last : Nat) :
    underline line first last = List.replicate (width (line.take (min first last))) ' ' ++
      List.replicate (max 1 (width ((line.take last).drop first))) '~' := by
  have marked : marks line first last = List.replicate (width (line.take (min first last))) ' ' ++
      List.replicate (width ((line.take last).drop first)) '~' := by
    rw [marks, flatMap_cells, flatMap_cells, List.take_take, Nat.min_comm]
  unfold underline
  split
  · next inside =>
      have covered : (line.take last).drop first ≠ [] := by
        apply List.ne_nil_of_length_pos
        rw [List.length_drop, List.length_take]
        omega
      have positive := width_pos _ covered
      rw [marked, Nat.max_eq_right positive]
  · next outside =>
      have none : (line.take last).drop first = [] := by
        apply List.eq_nil_of_length_eq_zero
        rw [List.length_drop, List.length_take]
        omega
      rw [marked, none]
      simp [width]

theorem underline_min (line : List Char) (first last : Nat) :
    underline line first (min last line.length) = underline line first last := by
  rw [underline_eq, underline_eq, ← Nat.min_assoc, ← List.take_eq_take_min, ← List.take_eq_take_min]

theorem underline_lastColumn (line : List Char) (start stop : Position) :
    underline line start.column (lastColumn line start stop) = underline line start.column
      (if stop.line = start.line then stop.column else line.length) := by
  unfold lastColumn
  split
  · exact underline_min _ _ _
  · rfl

theorem underline_first (line : List Char) (first last : Nat) :
    ∃ rest, underline line first last =
      List.replicate (width (line.take (min first last))) ' ' ++ '~' :: rest := by
  refine ⟨List.replicate (max 1 (width ((line.take last).drop first)) - 1) '~', ?_⟩
  rw [underline_eq, ← List.replicate_succ, Nat.sub_add_cancel (Nat.le_max_left 1 _)]

def Registered (texts : List (String × String)) (file text : String) : Prop :=
  ∃ before after, texts = before ++ (file, text) :: after ∧ file ∉ after.map Prod.fst

theorem get_of_registered (texts : List (String × String)) (file text : String)
    (registered : Registered texts file text) :
    (Sources.empty.addAll texts).get? file = some (LineMap.ofText text) := by
  obtain ⟨before, after, rfl, unique⟩ := registered
  have added : Sources.empty.addAll (before ++ (file, text) :: after) =
      ((Sources.empty.addAll before).add file text).addAll after := by
    simp only [Sources.addAll, List.foldl_append, List.foldl_cons]
  rw [added, Sources.get_addAll_of_not_mem _ after file unique, Sources.get_add, if_pos rfl]

def extract (number : Nat) (line marks : List Char) : List Char :=
  '\n' :: ' ' :: ' ' :: padLeft 3 (Decimal.ofNat number) ++ ' ' :: ' ' :: ' ' :: line ++
    '\n' :: List.replicate 8 ' ' ++ marks

def startOf (text : String) (d : Diagnostic) : Position :=
  (LineMap.ofText text).position d.start.toNat

def stopOf (text : String) (d : Diagnostic) : Position :=
  (LineMap.ofText text).position (endOffset d)

theorem start_le_endOffset (d : Diagnostic) : d.start.toNat ≤ endOffset d := by
  have word := d.start.toNat_lt
  unfold endOffset
  omega

theorem start_lt_endOffset (d : Diagnostic) (covers : d.length ≠ 0)
    (below : d.start.toNat < 4294967295) : d.start.toNat < endOffset d := by
  have positive : d.length.toNat ≠ 0 := fun zero => covers (UInt32.toNat_inj.mp zero)
  unfold endOffset
  omega

theorem write_diagnostic (texts : List (String × String)) (text : String) (d : Diagnostic)
    (registered : Registered texts d.file text) (covers : d.length ≠ 0) (line : List Char)
    (shown : (LineMap.ofText text).lineText (startOf text d).line = some (String.ofList line)) :
    (diagnostic (Sources.empty.addAll texts) d).write false =
      String.ofList ((heading (namedPosition d.file (startOf text d)) d).plain ++
        extract ((startOf text d).line + 1) line (underline line (startOf text d).column
          (lastColumn line (startOf text d) (stopOf text d)))) := by
  have known := get_of_registered texts d.file text registered
  have extracted : (snippet (LineMap.ofText text) d).plain =
      extract ((startOf text d).line + 1) line (underline line (startOf text d).column
        (lastColumn line (startOf text d) (stopOf text d))) := by
    rw [underline_lastColumn]
    unfold startOf at shown
    simp only [snippet, if_neg covers, shown, String.toList_ofList, Styled.plain, List.flatMap_cons,
      List.flatMap_nil, List.append_nil]
    rfl
  have front : diagnostic (Sources.empty.addAll texts) d =
      heading (namedPosition d.file (startOf text d)) d ++ snippet (LineMap.ofText text) d := by
    simp only [diagnostic, place, known]
    rfl
  rw [Styled.write, if_neg Bool.false_ne_true, front, Styled.plain, List.flatMap_append, ← Styled.plain,
    ← Styled.plain, extracted]

/-- What stands below a line of which the part between two columns is marked. -/
structure Marked (line : List Char) (first last : Nat) (marks : List Char) : Prop where
  inside : first < line.length → marks = List.replicate (width (line.take first)) ' ' ++
    List.replicate (width ((line.take last).drop first)) '~'
  beyond : line.length ≤ first → marks = List.replicate (width line) ' ' ++ ['~']
  shown : '~' ∈ marks

theorem marked_of_cutAt (text before line after : List Char) (start stop first last : Nat)
    (cut : CutAt text start stop before line after first last) (ordered : start ≤ stop)
    (covers : start < byteSize text → start < stop) :
    Marked line first last (underline line first last) where
  inside := by
    intro inside
    have less := cut.first_lt_last (covers (cut.start_lt inside)) inside
    have covered : (line.take last).drop first ≠ [] := by
      apply List.ne_nil_of_length_pos
      rw [List.length_drop, List.length_take]
      omega
    have positive := width_pos _ covered
    rw [underline_eq, cut.take_min ordered, Nat.max_eq_right positive]
  beyond := by
    intro beyond
    have none : (line.take last).drop first = [] := by
      apply List.drop_eq_nil_of_le
      rw [List.length_take]
      omega
    rw [underline_eq, cut.take_min ordered, List.take_of_length_le beyond, none]
    rfl
  shown := by
    obtain ⟨rest, begins⟩ := underline_first line first last
    rw [begins]
    simp

/-- A diagnostic whose ends are on boundaries is written with the line on which it starts. The marks
stand below the characters of that line which it covers. If it covers none of them, there is one mark,
after the last of them. -/
theorem snippet_marks_covered_part (texts : List (String × String)) (text : String) (d : Diagnostic)
    (registered : Registered texts d.file text) (small : text.utf8ByteSize < 4294967295)
    (covers : d.length ≠ 0) (opens : OnBoundary text d.start.toNat)
    (closes : OnBoundary text (endOffset d)) :
    ∃ before line after marks,
      (lineStarts text.toList)[(startOf text d).line]? = some (byteSize before) ∧
      (LineMap.ofText text).lineText (startOf text d).line = some (String.ofList line) ∧
      (diagnostic (Sources.empty.addAll texts) d).write false =
        String.ofList ((heading (namedPosition d.file (startOf text d)) d).plain ++
          extract ((startOf text d).line + 1) line marks) ∧
      Marked line (startOf text d).column (lastColumn line (startOf text d) (stopOf text d)) marks ∧
      CutAt text.toList d.start.toNat (endOffset d) before line after (startOf text d).column
        (lastColumn line (startOf text d) (stopOf text d)) := by
  have ordered := start_le_endOffset d
  obtain ⟨before, line, after, started, shown, cut⟩ :=
    LineMap.exists_cutAt text _ _ ordered opens closes
  refine ⟨before, line, after, _, started, shown,
    write_diagnostic texts text d registered covers line shown, ?_, cut⟩
  apply marked_of_cutAt _ _ _ _ _ _ _ _ cut ordered
  intro inside
  rw [byteSize_toList] at inside
  exact start_lt_endOffset d covers (by omega)

def tabbedText : String := "\té\t\r\nb"

def tabbedTexts : List (String × String) := [("a", "x"), ("a", tabbedText)]

def tabbed : Diagnostic := ⟨"X", .warning, "c", "a", 1, 3, "m"⟩

theorem tabbed_marks :
    Registered tabbedTexts tabbed.file tabbedText ∧ OnBoundary tabbedText tabbed.start.toNat ∧
      OnBoundary tabbedText (endOffset tabbed) ∧
      (diagnostic (Sources.empty.addAll tabbedTexts) tabbed).write false =
        "a:1:2 - warning X: m\n    1   \té\t\n            ~~~~~" ∧
      ∃ before line after marks,
        (lineStarts tabbedText.toList)[0]? = some (byteSize before) ∧
        (LineMap.ofText tabbedText).lineText 0 = some (String.ofList line) ∧
        (diagnostic (Sources.empty.addAll tabbedTexts) tabbed).write false =
          String.ofList ((heading (namedPosition "a" ⟨0, 1⟩) tabbed).plain ++ extract 1 line marks) ∧
        Marked line 1 (lastColumn line ⟨0, 1⟩ ⟨0, 3⟩) marks ∧
        CutAt tabbedText.toList 1 4 before line after 1 (lastColumn line ⟨0, 1⟩ ⟨0, 3⟩) := by
  have registered : Registered tabbedTexts tabbed.file tabbedText := ⟨[("a", "x")], [], rfl, by simp⟩
  have opens : OnBoundary tabbedText tabbed.start.toNat := by decide +kernel
  have closes : OnBoundary tabbedText (endOffset tabbed) := by decide +kernel
  have start : startOf tabbedText tabbed = ⟨0, 1⟩ := by decide +kernel
  have stop : stopOf tabbedText tabbed = ⟨0, 3⟩ := by decide +kernel
  have marked := snippet_marks_covered_part tabbedTexts tabbedText tabbed registered
    (by decide +kernel) (by decide) opens closes
  rw [start, stop] at marked
  exact ⟨registered, opens, closes, by decide +kernel, marked⟩

theorem take_min_lastColumn (text : String) (d : Diagnostic) (line : List Char)
    (shown : (LineMap.ofText text).lineText (startOf text d).line = some (String.ofList line))
    (placed : OnBoundary text (endOffset d) ∨ (stopOf text d).line ≠ (startOf text d).line) :
    line.take (min (startOf text d).column (lastColumn line (startOf text d) (stopOf text d))) =
      line.take (startOf text d).column := by
  rcases placed with closes | later
  · by_cases opens : OnBoundary text d.start.toNat
    · obtain ⟨before, line', after, _, shown', cut⟩ :=
        LineMap.exists_cutAt text _ _ (start_le_endOffset d) opens closes
      obtain rfl : line = line' :=
        String.ofList_injective (Option.some.inj (shown.symm.trans shown'))
      exact cut.take_min (start_le_endOffset d)
    · -- A start inside a character has the column zero, and no blanks come before the marks.
      have zero : (startOf text d).column = 0 := LineMap.column_of_not_onBoundary text _ opens
      rw [zero, Nat.zero_min]
  · rw [lastColumn, if_neg later, ← List.take_eq_take_min]

theorem lastColumn_of_split (text : String) (d : Diagnostic) (line : List Char)
    (split : ¬ OnBoundary text (endOffset d)) (same : (stopOf text d).line = (startOf text d).line) :
    lastColumn line (startOf text d) (stopOf text d) = 0 := by
  have zero : (stopOf text d).column = 0 := LineMap.column_of_not_onBoundary text _ split
  rw [lastColumn, if_pos same, zero, Nat.zero_min]

theorem line_ne_nil_of_split (text : String) (d : Diagnostic) (line : List Char)
    (shown : (LineMap.ofText text).lineText (startOf text d).line = some (String.ofList line))
    (split : ¬ OnBoundary text (endOffset d)) (same : (stopOf text d).line = (startOf text d).line) :
    line ≠ [] := by
  obtain ⟨earlier, found, later, reach, located⟩ := LineMap.exists_located text (endOffset d)
  obtain rfl : line = found.text := by
    rw [← same] at shown
    exact String.ofList_injective (Option.some.inj (shown.symm.trans located.lineText))
  exact located.text_ne_nil split

/-- The first mark is below the column of the heading exactly if the end of the diagnostic is on a
boundary or on a later line, or that column is the first. Otherwise it is below the first column. -/
theorem first_mark_below_column_iff (texts : List (String × String)) (text : String) (d : Diagnostic)
    (registered : Registered texts d.file text) (covers : d.length ≠ 0) :
    ∃ line indent rest,
      (LineMap.ofText text).lineText (startOf text d).line = some (String.ofList line) ∧
      (diagnostic (Sources.empty.addAll texts) d).write false =
        String.ofList ((heading (namedPosition d.file (startOf text d)) d).plain ++
          extract ((startOf text d).line + 1) line (List.replicate indent ' ' ++ '~' :: rest)) ∧
      (indent = width (line.take (startOf text d).column) ↔
        OnBoundary text (endOffset d) ∨ (stopOf text d).line ≠ (startOf text d).line ∨
          (startOf text d).column = 0) ∧
      (indent ≠ width (line.take (startOf text d).column) → indent = 0) := by
  obtain ⟨earlier, own, later, reach, located⟩ := LineMap.exists_located text d.start.toNat
  have shown : (LineMap.ofText text).lineText (startOf text d).line = some (String.ofList own.text) :=
    located.lineText
  obtain ⟨rest, begins⟩ := underline_first own.text (startOf text d).column
    (lastColumn own.text (startOf text d) (stopOf text d))
  have written := write_diagnostic texts text d registered covers own.text shown
  rw [begins] at written
  refine ⟨own.text, _, rest, shown, written, ?_⟩
  by_cases placed : OnBoundary text (endOffset d) ∨ (stopOf text d).line ≠ (startOf text d).line
  · rw [take_min_lastColumn text d own.text shown placed]
    exact ⟨iff_of_true rfl (or_assoc.mp (.inl placed)), fun moved => absurd rfl moved⟩
  · obtain ⟨split, sameLine⟩ := not_or.mp placed
    have same := not_not.mp sameLine
    rw [lastColumn_of_split text d own.text split same, Nat.min_zero, List.take_zero]
    refine ⟨⟨?_, ?_⟩, fun _ => rfl⟩
    · intro level
      by_contra inside
      have column : (startOf text d).column ≠ 0 := fun zero => inside (.inr (.inr zero))
      have taken : own.text.take (startOf text d).column ≠ [] := by
        rw [Ne, List.take_eq_nil_iff, not_or]
        exact ⟨column, line_ne_nil_of_split text d own.text shown split same⟩
      exact absurd level (Nat.ne_of_lt (width_pos _ taken))
    · intro cases
      rcases cases with closes | differs | zero
      · exact absurd closes split
      · exact absurd same differs
      · rw [zero, List.take_zero]

def splitEnd : Diagnostic := ⟨"X", .warning, "c", "a", 1, 1, "m"⟩

theorem splitEnd_first_mark :
    Registered [("a", "aé")] splitEnd.file "aé" ∧ splitEnd.length ≠ 0 ∧
      ∃ line rest, (LineMap.ofText "aé").lineText 0 = some (String.ofList line) ∧
        (diagnostic (Sources.empty.addAll [("a", "aé")]) splitEnd).write false =
          String.ofList ((heading (namedPosition "a" ⟨0, 1⟩) splitEnd).plain ++
            extract 1 line ('~' :: rest)) ∧
        width (line.take 1) ≠ 0 := by
  have registered : Registered [("a", "aé")] splitEnd.file "aé" := ⟨[], [], rfl, by simp⟩
  have start : startOf "aé" splitEnd = ⟨0, 1⟩ := by decide +kernel
  have stop : stopOf "aé" splitEnd = ⟨0, 0⟩ := by decide +kernel
  have split : ¬ OnBoundary "aé" (endOffset splitEnd) := by decide +kernel
  obtain ⟨line, indent, rest, shown, written, level, moved⟩ :=
    first_mark_below_column_iff _ _ splitEnd registered (by decide)
  rw [start, stop] at level
  rw [start] at shown written moved
  have off : indent ≠ width (line.take 1) := by
    intro same
    rcases level.mp same with closes | later | first
    · exact split closes
    · exact later rfl
    · cases first
  obtain rfl : indent = 0 := moved off
  exact ⟨registered, by decide, line, rest, shown, written, Ne.symm off⟩

theorem splitEnd_mark_misplaced :
    (diagnostic (Sources.empty.addAll [("a", "aé")]) splitEnd).write false =
        "a:1:2 - warning X: m\n    1   aé\n        ~" ∧
      ∀ rest, (diagnostic (Sources.empty.addAll [("a", "aé")]) splitEnd).write false ≠
        String.ofList ((heading (namedPosition "a" ⟨0, 1⟩) splitEnd).plain ++
          extract 1 ['a', 'é'] (List.replicate (width (['a', 'é'].take 1)) ' ' ++ '~' :: rest)) := by
  have written : (diagnostic (Sources.empty.addAll [("a", "aé")]) splitEnd).write false =
      String.ofList ((heading (namedPosition "a" ⟨0, 1⟩) splitEnd).plain ++
        extract 1 ['a', 'é'] ['~']) := by decide +kernel
  refine ⟨by decide +kernel, ?_⟩
  intro rest below
  have marks := List.append_cancel_left (String.ofList_injective (written.symm.trans below))
  exact absurd (List.append_cancel_left marks) (by simp [width, cells])

end ConventionLint.Report
