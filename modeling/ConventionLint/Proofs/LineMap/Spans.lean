import ConventionLint.Proofs.LineMap.Positions

namespace ConventionLint

/-- An offset is on the boundary of a character, or past the end of the text. -/
def OnBoundary (text : String) (offset : Nat) : Prop :=
  String.Pos.Raw.IsValid text ⟨offset⟩ ∨ text.utf8ByteSize < offset

instance (text : String) (offset : Nat) : Decidable (OnBoundary text offset) :=
  inferInstanceAs (Decidable (_ ∨ _))

theorem byteSize_toList (text : String) : byteSize text.toList = text.utf8ByteSize := by
  rw [byteSize_eq_utf8Len, String.utf8Len_toList]

theorem onBoundary_iff (text : String) (offset : Nat) :
    OnBoundary text offset ↔ ∃ before after, text.toList = before ++ after ∧
      byteSize before = min offset (byteSize text.toList) := by
  constructor
  · intro boundary
    rcases boundary with valid | past
    · obtain ⟨before, after, whole, size⟩ := exists_append_of_isValid valid
      refine ⟨before, after, whole, ?_⟩
      rw [whole, byteSize_append]
      omega
    · refine ⟨text.toList, [], (List.append_nil _).symm, ?_⟩
      rw [byteSize_toList]
      omega
  · rintro ⟨before, after, whole, size⟩
    by_cases past : text.utf8ByteSize < offset
    · exact .inr past
    · left
      rw [byteSize_toList, Nat.min_eq_left (by omega)] at size
      apply String.Pos.Raw.isValid_iff_exists_append.mpr
      refine ⟨String.ofList before, String.ofList after, ?_, ?_⟩
      · rw [← String.ofList_append, ← whole, String.ofList_toList]
      · have bytes : byteSize before = (String.ofList before).utf8ByteSize := by
          rw [← byteSize_toList, String.toList_ofList]
        rw [← size, bytes]
        rfl

theorem byteSize_le_of_prefix {front text : List Char} (begins : front <+: text) :
    byteSize front ≤ byteSize text := by
  obtain ⟨rest, rfl⟩ := begins
  rw [byteSize_append]
  omega

theorem byteSize_take_le (cs : List Char) (first last : Nat) (ordered : first ≤ last) :
    byteSize (cs.take first) ≤ byteSize (cs.take last) :=
  byteSize_le_of_prefix (List.take_prefix_take_left ordered)

theorem byteSize_take_lt (cs : List Char) (first last : Nat) (less : first < last)
    (inside : first < cs.length) : byteSize (cs.take first) < byteSize (cs.take last) := by
  have next := byteSize_take_le cs (first + 1) last less
  rw [List.take_add_one, List.getElem?_eq_getElem inside, Option.toList_some, byteSize_append,
    byteSize, byteSize] at next
  have positive := cs[first].utf8Size_pos
  omega

theorem byteSize_of_single (cs : List Char) (single : ∀ c ∈ cs, c.utf8Size = 1) :
    byteSize cs = cs.length := by
  induction cs with
  | nil => rfl
  | cons c cs ih =>
      have rest := ih fun d member => single d (List.mem_cons_of_mem c member)
      rw [byteSize, single c List.mem_cons_self, rest, List.length_cons, Nat.add_comm]

theorem Terminator.utf8Size_of_mem (ending : Terminator) (c : Char) (member : c ∈ ending.chars) :
    c.utf8Size = 1 := by
  cases ending with
  | lineFeed =>
      rw [List.mem_singleton.mp member]
      rfl
  | carriageReturn =>
      rw [List.mem_singleton.mp member]
      rfl
  | both =>
      rcases List.mem_pair.mp member with rfl | rfl
      · rfl
      · rfl

theorem byteSize_take_of_charsIn (n : Nat) (cs : List Char) (count : Nat)
    (found : charsIn n cs = some count) : byteSize (cs.take count) = n := by
  fun_induction charsIn n cs generalizing count with
  | case1 cs =>
      rw [← Option.some.inj found]
      rfl
  | case2 n => cases found
  | case3 n c cs fits ih =>
      obtain ⟨rest, counted, rfl⟩ := Option.map_eq_some_iff.mp found
      rw [List.take_succ_cons, byteSize, ih rest counted]
      omega
  | case4 n c cs tooLarge => cases found

/-- Where an offset is: on a line between others, so many bytes after its start. -/
structure Located (text : List Char) (offset : Nat) (position : Position)
    (earlier : List Line) (line : Line) (later : List Line) (reach : Nat) : Prop where
  lines : Line.split text = earlier ++ line :: later
  index : position.line = earlier.length
  reached : byteSize (Line.contents earlier) + reach = min offset (byteSize text)
  within : reach ≤ line.size
  inside : later ≠ [] → reach < line.size
  column : position.column = line.column reach

namespace Located

variable {text : List Char} {offset next reach farther : Nat} {position second : Position}
  {earlier earlier' later later' : List Line} {line line' : Line}

theorem whole (located : Located text offset position earlier line later reach) :
    text = Line.contents earlier ++ (line.content ++ Line.contents later) := by
  rw [← Line.contents_split text, located.lines]
  simp [Line.contents]

theorem size (located : Located text offset position earlier line later reach) :
    byteSize text = byteSize (Line.contents earlier) + (line.size + byteSize (Line.contents later)) := by
  rw [located.whole, byteSize_append, byteSize_append]
  rfl

theorem same_line (one : Located text offset position earlier line later reach)
    (two : Located text next second earlier' line' later' farther)
    (same : second.line = position.line) : earlier' = earlier ∧ line' = line := by
  have lengths : earlier'.length = earlier.length := by rw [← two.index, same, one.index]
  obtain ⟨front, back⟩ := List.append_inj (two.lines.symm.trans one.lines) lengths
  exact ⟨front, (List.cons.inj back).1⟩

theorem end_le (one : Located text offset position earlier line later reach)
    (two : Located text next second earlier' line' later' farther)
    (before : position.line < second.line) :
    byteSize (Line.contents earlier) + line.size ≤ byteSize (Line.contents earlier') := by
  rw [one.index, two.index] at before
  have front : earlier ++ [line] <+: Line.split text :=
    ⟨later, by rw [one.lines, List.append_assoc, List.singleton_append]⟩
  obtain ⟨rest, longer⟩ : earlier ++ [line] <+: earlier' := by
    apply List.prefix_of_prefix_length_le front ⟨line' :: later', two.lines.symm⟩
    rw [List.length_append, List.length_singleton]
    exact before
  calc
    _ = byteSize (Line.contents (earlier ++ [line])) := by
      rw [Line.byteSize_contents_append, Line.byteSize_contents_cons]
      rfl
    _ ≤ byteSize (Line.contents (earlier ++ [line] ++ rest)) := by
      rw [Line.byteSize_contents_append (earlier ++ [line])]
      omega
    _ = _ := by rw [longer]

theorem line_le (one : Located text offset position earlier line later reach)
    (two : Located text next second earlier' line' later' farther) (ordered : offset ≤ next) :
    position.line ≤ second.line := by
  by_contra after
  have ended := two.end_le one (by omega)
  have more : later' ≠ [] := by
    rintro rfl
    have lengths := congrArg List.length (one.lines.symm.trans two.lines)
    simp only [List.length_append, List.length_cons, List.length_nil] at lengths
    have index := one.index
    have index' := two.index
    omega
  have bound := two.inside more
  have reached := one.reached
  have reached' := two.reached
  omega

theorem started (located : Located text offset position earlier line later reach) :
    (lineStarts text)[position.line]? = some (byteSize (Line.contents earlier)) := by
  rw [getElem?_lineStarts, located.index, located.lines, List.take_left, if_pos (by simp)]

theorem lineText {text : String}
    (located : Located text.toList offset position earlier line later reach) :
    (LineMap.ofText text).lineText position.line = some (String.ofList line.text) := by
  rw [LineMap.lineText, LineMap.ofText, located.lines, located.index,
    List.getElem?_append_right (Nat.le_refl _), Nat.sub_self]
  rfl

theorem column_of_append (located : Located text offset position earlier line later reach)
    {front back : List Char} (content : line.content = front ++ back) (size : byteSize front = reach) :
    position.column = front.length := by
  rw [located.column, Line.column, content, ← size, charsIn_byteSize]
  rfl

end Located

namespace LineMap

theorem exists_located (text : String) (offset : Nat) :
    ∃ earlier line later reach,
      Located text.toList offset ((ofText text).position offset) earlier line later reach := by
  obtain ⟨earlier, line, later, lines, index, reached, bounded, column⟩ :=
    locate_cases (Line.split text.toList) offset (Line.split_ne_nil _)
  have size : byteSize text.toList =
      byteSize (Line.contents earlier) + (line.size + byteSize (Line.contents later)) := by
    rw [← Line.contents_split text.toList, lines, Line.byteSize_contents_append,
      Line.byteSize_contents_cons]
  refine ⟨earlier, line, later, _, lines, index, ?_, Nat.min_le_right _ _, ?_, column⟩
  · rw [size]
    by_cases last : later = []
    · have none : byteSize (Line.contents later) = 0 := by
        rw [last]
        rfl
      omega
    · have bound := bounded last
      omega
  · intro more
    have bound := bounded more
    omega

end LineMap

namespace Located

variable {text : String} {offset reach : Nat} {position : Position} {earlier later : List Line}
  {line : Line}

theorem onBoundary_iff
    (located : Located text.toList offset position earlier line later reach) :
    OnBoundary text offset ↔ ∃ front back, line.content = front ++ back ∧ byteSize front = reach := by
  rw [ConventionLint.onBoundary_iff, ← located.reached]
  constructor
  · rintro ⟨before, after, whole, size⟩
    have text := located.whole
    -- The earlier lines come first, and what is left of the text before the offset is in the line.
    obtain ⟨front, rfl⟩ : Line.contents earlier <+: before :=
      prefix_of_byteSize_le ⟨_, text.symm⟩ ⟨after, whole.symm⟩ (by omega)
    rw [byteSize_append] at size
    rw [text, List.append_assoc] at whole
    have rest := List.append_cancel_left whole
    have fits : byteSize front ≤ byteSize line.content := by
      have within := located.within
      rw [Line.size] at within
      omega
    obtain ⟨back, content⟩ : front <+: line.content :=
      prefix_of_byteSize_le ⟨after, rest.symm⟩ ⟨Line.contents later, rfl⟩ fits
    exact ⟨front, back, content.symm, by omega⟩
  · rintro ⟨front, back, content, size⟩
    refine ⟨Line.contents earlier ++ front, back ++ Line.contents later, ?_, ?_⟩
    · rw [located.whole, content]
      simp only [List.append_assoc]
    · rw [byteSize_append, size]

theorem byteSize_take
    (located : Located text.toList offset position earlier line later reach)
    (boundary : OnBoundary text offset) :
    byteSize (Line.contents earlier ++ line.text.take position.column) =
      min offset (byteSize (Line.contents earlier ++ line.text)) := by
  obtain ⟨front, back, content, size⟩ := located.onBoundary_iff.mp boundary
  have starts : line.text <+: front ++ back := ⟨_, content⟩
  have taken : byteSize (line.text.take front.length) = min reach (byteSize line.text) := by
    -- The offset is in the terminator or after it, or in the text of the line.
    rcases List.prefix_or_prefix_of_prefix starts (List.prefix_append front back) with short | long
    · have less := byteSize_le_of_prefix short
      rw [List.take_of_length_le short.length_le]
      omega
    · have less := byteSize_le_of_prefix long
      rw [← List.prefix_iff_eq_take.mp long]
      omega
  have fits : byteSize line.text ≤ line.size := byteSize_le_of_prefix ⟨_, rfl⟩
  have total := located.size
  have reached := located.reached
  rw [byteSize_append, byteSize_append, located.column_of_append content size, taken]
  omega

theorem text_ne_nil
    (located : Located text.toList offset position earlier line later reach)
    (split : ¬ OnBoundary text offset) : line.text ≠ [] := by
  intro empty
  have single : ∀ c ∈ line.content, c.utf8Size = 1 := by
    rw [Line.content, empty, List.nil_append]
    cases line.ending with
    | none => simp
    | some ending => exact ending.utf8Size_of_mem
  have within := located.within
  rw [Line.size, byteSize_of_single _ single] at within
  apply split
  apply located.onBoundary_iff.mpr
  refine ⟨_, _, (List.take_append_drop reach line.content).symm, ?_⟩
  rw [byteSize_of_single _ fun c member => single c (List.mem_of_mem_take member), List.length_take]
  omega

end Located

theorem LineMap.column_of_not_onBoundary (text : String) (offset : Nat)
    (split : ¬ OnBoundary text offset) : ((ofText text).position offset).column = 0 := by
  obtain ⟨earlier, line, later, reach, located⟩ := exists_located text offset
  rw [located.column, Line.column]
  cases counted : charsIn reach line.content with
  | none => rfl
  | some count =>
      refine absurd (located.onBoundary_iff.mpr ?_) split
      exact ⟨_, _, (List.take_append_drop count line.content).symm,
        byteSize_take_of_charsIn _ _ _ counted⟩

/-- A line of a text, cut at two columns. They are where a span starts and where it ends, as far as
the span is on the line. -/
structure CutAt (text : List Char) (start stop : Nat) (before line after : List Char)
    (first last : Nat) : Prop where
  whole : text = before ++ line ++ after
  opened : byteSize (before ++ line.take first) = min start (byteSize (before ++ line))
  closed : byteSize (before ++ line.take last) = min stop (byteSize (before ++ line))

namespace CutAt

variable {text before line after : List Char} {start stop first last : Nat}

theorem start_lt (cut : CutAt text start stop before line after first last)
    (inside : first < line.length) : start < byteSize text := by
  have shorter := byteSize_take_lt line first line.length inside inside
  have opened := cut.opened
  have whole := congrArg byteSize cut.whole
  rw [List.take_length] at shorter
  simp only [byteSize_append] at opened whole
  omega

theorem first_lt_last (cut : CutAt text start stop before line after first last)
    (ordered : start < stop) (inside : first < line.length) : first < last := by
  by_contra reversed
  have opened := cut.opened
  have closed := cut.closed
  have shorter := byteSize_take_lt line first line.length inside inside
  have back := byteSize_take_le line last first (by omega)
  rw [List.take_length] at shorter
  simp only [byteSize_append] at opened closed
  omega

theorem take_min (cut : CutAt text start stop before line after first last)
    (ordered : start ≤ stop) : line.take (min first last) = line.take first := by
  by_contra differs
  have reversed : last < first := by
    by_contra kept
    exact differs (by rw [Nat.min_eq_left (by omega)])
  have inside : last < line.length := by
    by_contra long
    rw [List.take_of_length_le (show line.length ≤ min first last by omega),
      List.take_of_length_le (show line.length ≤ first by omega)] at differs
    exact differs rfl
  have shorter := byteSize_take_lt line last first reversed inside
  have opened := cut.opened
  have closed := cut.closed
  simp only [byteSize_append] at opened closed
  omega

end CutAt

def lastColumn (line : List Char) (start stop : Position) : Nat :=
  if stop.line = start.line then min stop.column line.length else line.length

theorem LineMap.exists_cutAt (text : String) (start stop : Nat) (ordered : start ≤ stop)
    (opens : OnBoundary text start) (closes : OnBoundary text stop) :
    ∃ before line after,
      (lineStarts text.toList)[((ofText text).position start).line]? = some (byteSize before) ∧
      (ofText text).lineText ((ofText text).position start).line = some (String.ofList line) ∧
      CutAt text.toList start stop before line after ((ofText text).position start).column
        (lastColumn line ((ofText text).position start) ((ofText text).position stop)) := by
  obtain ⟨earlier, line, later, reach, one⟩ := exists_located text start
  obtain ⟨earlier', line', later', farther, two⟩ := exists_located text stop
  refine ⟨Line.contents earlier, line.text,
    (line.ending.map Terminator.chars).getD [] ++ Line.contents later, one.started, one.lineText, ?_,
    one.byteSize_take opens, ?_⟩
  · rw [one.whole, Line.content, List.append_assoc, List.append_assoc]
  · unfold lastColumn
    split
    · next same =>
        obtain ⟨rfl, rfl⟩ := one.same_line two same
        rw [← List.take_eq_take_min]
        exact two.byteSize_take closes
    · next differs =>
        -- The end is on a later line, so the span goes on to the end of this one.
        have ended := one.end_le two (lt_of_le_of_ne (one.line_le two ordered) (Ne.symm differs))
        have fits : byteSize line.text ≤ line.size := byteSize_le_of_prefix ⟨_, rfl⟩
        have reached := two.reached
        rw [List.take_length, byteSize_append]
        omega

end ConventionLint
