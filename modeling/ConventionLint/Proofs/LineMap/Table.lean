import ConventionLint.Proofs.LineMap.Spans
import Mathlib.Data.List.DropRight

/-!
Lines and positions by the table of line starts.

The table has the offset at which each line starts. A position is found by a search in the table and
by counting the characters from the start that is found; the text of a line is what stands between its
start and the next one, without the terminator. This gives what the lines themselves give.
-/
namespace ConventionLint

def slice (text : List Char) (start stop : Nat) : Option (List Char) :=
  if start ≤ stop then
    (charsIn start text).bind fun first => (charsIn stop text).map fun last =>
      (text.take last).drop first
  else none

/-- Where a number is in a table of increasing numbers, or else the place before the one where it
belongs. -/
def search (table : List Nat) (number : Nat) : Nat :=
  let smaller := table.countP fun entry => entry < number
  if number ∈ table then smaller else smaller - 1

def isBreak (c : Char) : Bool := c = '\n' || c = '\r'

namespace LineMap

def positionByTable (text : String) (offset : Nat) : Position :=
  let line := search (lineStarts text.toList) offset
  let stop := min offset text.utf8ByteSize
  let start := min ((lineStarts text.toList)[line]?.getD 0) stop
  ⟨line, ((slice text.toList start stop).map List.length).getD 0⟩

def lineTextByTable (text : String) (line : Nat) : Option String :=
  (lineStarts text.toList)[line]?.bind fun start =>
    (slice text.toList start ((lineStarts text.toList)[line + 1]?.getD text.utf8ByteSize)).map
      fun part => String.ofList (part.rdropWhile isBreak)

end LineMap

theorem increasing_startsAfter (offset : Nat) (text : List Char) :
    (∀ start ∈ startsAfter offset text, offset < start) ∧
      (startsAfter offset text).Pairwise (· < ·) := by
  induction text generalizing offset with
  | nil => simp [startsAfter]
  | cons c text ih =>
      have positive := c.utf8Size_pos
      obtain ⟨later, increasing⟩ := ih (offset + c.utf8Size)
      have further : ∀ start ∈ startsAfter (offset + c.utf8Size) text, offset < start := by
        intro start member
        have bound := later start member
        omega
      rw [startsAfter]
      split
      · refine ⟨List.forall_mem_cons.mpr ⟨by omega, further⟩, List.pairwise_cons.mpr ⟨later, increasing⟩⟩
      · exact ⟨further, increasing⟩

theorem lineStarts_increasing (text : List Char) : (lineStarts text).Pairwise (· < ·) :=
  have after := increasing_startsAfter 0 text
  List.pairwise_cons.mpr after

theorem search_eq (before after : List Nat) (entry number : Nat)
    (increasing : (before ++ entry :: after).Pairwise (· < ·)) (reached : entry ≤ number)
    (last : ∀ other ∈ after, number < other) :
    search (before ++ entry :: after) number = before.length := by
  obtain ⟨_, _, smaller⟩ := List.pairwise_append.mp increasing
  have front : before.countP (fun other => other < number) = before.length := by
    apply List.countP_eq_length.mpr
    intro other member
    have less := smaller other member entry List.mem_cons_self
    exact decide_eq_true (by omega)
  have back : after.countP (fun other => other < number) = 0 := by
    apply List.countP_eq_zero.mpr
    intro other member
    have greater := last other member
    simp
    omega
  rw [search, List.countP_append, List.countP_cons, front, back]
  by_cases same : entry = number
  · simp [same]
  · have less : entry < number := by omega
    have absent : number ∉ before ++ entry :: after := by
      simp only [List.mem_append, List.mem_cons, not_or]
      refine ⟨fun member => ?_, Ne.symm same, fun member => ?_⟩
      · have earlier := smaller number member entry List.mem_cons_self
        omega
      · exact Nat.lt_irrefl number (last number member)
    simp [less, absent]

theorem slice_eq (before part after : List Char) :
    slice (before ++ part ++ after) (byteSize before) (byteSize before + byteSize part) =
      some part := by
  have first : charsIn (byteSize before) (before ++ part ++ after) = some before.length := by
    rw [List.append_assoc, charsIn_byteSize]
  have last : charsIn (byteSize before + byteSize part) (before ++ part ++ after) =
      some (before ++ part).length := by
    rw [← byteSize_append, charsIn_byteSize]
  rw [slice, if_pos (Nat.le_add_right _ _), first, last]
  simp only [Option.bind_some, Option.map_some, List.take_left, List.drop_left]

namespace Line

theorem starts_append (offset : Nat) (earlier later : List Line) :
    starts offset (earlier ++ later) =
      starts offset earlier ++ starts (offset + byteSize (contents earlier)) later := by
  induction earlier generalizing offset with
  | nil => rfl
  | cons line earlier ih =>
      rw [List.cons_append, starts, starts, ih, byteSize_contents_cons, List.cons_append,
        Nat.add_assoc]

theorem length_starts (offset : Nat) (lines : List Line) :
    (starts offset lines).length = lines.length := by
  induction lines generalizing offset with
  | nil => rfl
  | cons line lines ih => rw [starts, List.length_cons, ih, List.length_cons]

theorem le_of_mem_starts (offset : Nat) (lines : List Line) (start : Nat)
    (member : start ∈ starts offset lines) : offset ≤ start := by
  induction lines generalizing offset with
  | nil => cases member
  | cons line lines ih =>
      rcases List.mem_cons.mp member with rfl | later
      · exact Nat.le_refl _
      · have further := ih _ later
        omega

theorem plain_of_mem_split (text : List Char) (line : Line) (member : line ∈ split text) :
    '\r' ∉ line.text ∧ '\n' ∉ line.text := by
  obtain ⟨layout, proper, _, cut⟩ := Layout.exists_of_split text
  rw [cut, Layout.lines] at member
  apply proper.plain
  rcases List.mem_append.mp member with ended | last
  · obtain ⟨entry, inside, rfl⟩ := List.mem_map.mp ended
    exact List.mem_append_left _ (List.mem_map_of_mem inside)
  · rw [List.mem_singleton.mp last]
    exact List.mem_append_right _ (List.mem_singleton_self _)

theorem rdropWhile_content (line : Line) (plain : '\r' ∉ line.text ∧ '\n' ∉ line.text) :
    line.content.rdropWhile isBreak = line.text := by
  have kept : line.text.rdropWhile isBreak = line.text := by
    apply List.rdropWhile_eq_self_iff.mpr
    intro inhabited ends
    have member := List.getLast_mem inhabited
    rcases Bool.or_eq_true_iff.mp ends with feed | carriage
    · exact plain.2 (of_decide_eq_true feed ▸ member)
    · exact plain.1 (of_decide_eq_true carriage ▸ member)
  obtain ⟨text, ending⟩ := line
  cases ending with
  | none => simpa [content] using kept
  | some ending =>
      cases ending with
      | lineFeed => exact (List.rdropWhile_concat_pos isBreak text '\n' rfl).trans kept
      | carriageReturn => exact (List.rdropWhile_concat_pos isBreak text '\r' rfl).trans kept
      | both =>
          calc (text ++ ['\r', '\n']).rdropWhile isBreak
            _ = ((text ++ ['\r']) ++ ['\n']).rdropWhile isBreak := by rw [List.append_assoc]; rfl
            _ = (text ++ ['\r']).rdropWhile isBreak := List.rdropWhile_concat_pos isBreak _ '\n' rfl
            _ = text.rdropWhile isBreak := List.rdropWhile_concat_pos isBreak text '\r' rfl
            _ = text := kept

end Line

theorem lineStarts_eq (text : List Char) (earlier later : List Line) (line : Line)
    (lines : Line.split text = earlier ++ line :: later) :
    lineStarts text = Line.starts 0 earlier ++ byteSize (Line.contents earlier) ::
      Line.starts (byteSize (Line.contents earlier) + line.size) later := by
  rw [lineStarts, Line.starts_split, lines, Line.starts_append, Line.starts, Nat.zero_add]

/-- A line ends where the next one starts, or with the text. -/
theorem getElem?_lineStarts_next (text : List Char) (earlier later : List Line) (line : Line)
    (lines : Line.split text = earlier ++ line :: later) :
    (lineStarts text)[earlier.length + 1]?.getD (byteSize text) =
      byteSize (Line.contents earlier) + line.size := by
  have front : (earlier ++ line :: later).take (earlier.length + 1) = earlier ++ [line] := by
    rw [List.take_length_add_append]
    rfl
  rw [getElem?_lineStarts, lines, front]
  cases later with
  | nil =>
      rw [if_neg (by simp), Option.getD_none, ← Line.contents_split text, lines,
        Line.byteSize_contents_append, Line.byteSize_contents_cons]
      rfl
  | cons next later =>
      rw [if_pos (by simp), Option.getD_some, Line.byteSize_contents_append,
        Line.byteSize_contents_cons]
      rfl

namespace LineMap

theorem search_lineStarts (text : String) (offset : Nat) :
    search (lineStarts text.toList) offset = ((ofText text).position offset).line := by
  obtain ⟨earlier, line, later, reach, located⟩ := exists_located text offset
  have table := lineStarts_eq text.toList earlier later line located.lines
  have increasing := lineStarts_increasing text.toList
  have reached := located.reached
  have size := located.size
  rw [table] at increasing ⊢
  rw [search_eq _ _ _ offset increasing (by omega), Line.length_starts, located.index]
  intro start member
  have bound := Line.le_of_mem_starts _ _ start member
  have more : later ≠ [] := by
    rintro rfl
    cases member
  have inside := located.inside more
  omega

/-- The position of an offset is found by a search in the table. -/
theorem position_eq_table (text : String) (offset : Nat) :
    (ofText text).position offset = positionByTable text offset := by
  obtain ⟨earlier, line, later, reach, located⟩ := exists_located text offset
  have reached := located.reached
  rw [byteSize_toList] at reached
  have column : ((slice text.toList (byteSize (Line.contents earlier))
      (min offset text.utf8ByteSize)).map List.length).getD 0 =
        ((ofText text).position offset).column := by
    by_cases boundary : OnBoundary text offset
    · obtain ⟨front, back, content, size⟩ := located.onBoundary_iff.mp boundary
      have cut := slice_eq (Line.contents earlier) front (back ++ Line.contents later)
      rw [located.column_of_append content size, ← reached, located.whole, content, ← size]
      simp only [List.append_assoc] at cut ⊢
      rw [cut]
      rfl
    · rw [column_of_not_onBoundary text offset boundary]
      cases counted : charsIn (min offset text.utf8ByteSize) text.toList with
      | none =>
          simp [slice, counted]
      | some count =>
          apply absurd _ boundary
          apply (onBoundary_iff text offset).mpr
          refine ⟨_, _, (List.take_append_drop count text.toList).symm, ?_⟩
          rw [byteSize_take_of_charsIn _ _ _ counted, byteSize_toList]
  rw [positionByTable, search_lineStarts, located.started, Option.getD_some,
    Nat.min_eq_left (by omega), column]

/-- The text of a line is what stands from its start in the table to the next one, trimmed. -/
theorem lineText_eq_table (text : String) (i : Nat) :
    (ofText text).lineText i = lineTextByTable text i := by
  by_cases inside : i < (Line.split text.toList).length
  · obtain ⟨earlier, line, later, lines, rfl⟩ : ∃ earlier line later,
        Line.split text.toList = earlier ++ line :: later ∧ earlier.length = i := by
      refine ⟨_, (Line.split text.toList)[i], (Line.split text.toList).drop (i + 1), ?_,
        List.length_take_of_le inside.le⟩
      rw [List.getElem_cons_drop, List.take_append_drop]
    have whole : text.toList = Line.contents earlier ++ line.content ++ Line.contents later := by
      rw [← Line.contents_split text.toList, lines]
      simp [Line.contents]
    have start : (lineStarts text.toList)[earlier.length]? =
        some (byteSize (Line.contents earlier)) := by
      rw [getElem?_lineStarts, lines, List.take_left, if_pos (by simp)]
    have stop := getElem?_lineStarts_next text.toList earlier later line lines
    rw [byteSize_toList] at stop
    have plain := Line.plain_of_mem_split text.toList line (by simp [lines])
    rw [lineTextByTable, start, Option.bind_some, stop, whole, Line.size, slice_eq, Option.map_some,
      line.rdropWhile_content plain, lineText, ofText, lines,
      List.getElem?_append_right (Nat.le_refl _), Nat.sub_self]
    rfl
  · have absent : (lineStarts text.toList)[i]? = none := by
      rw [getElem?_lineStarts, if_neg inside]
    rw [lineTextByTable, absent, lineText, ofText, List.getElem?_eq_none (Nat.le_of_not_lt inside)]
    rfl

end LineMap

end ConventionLint
