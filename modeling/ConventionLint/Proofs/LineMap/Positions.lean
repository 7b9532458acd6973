import ConventionLint.Proofs.LineMap.Lines
import Mathlib.Data.String.Basic

namespace ConventionLint

theorem byteSize_eq_utf8Len (cs : List Char) : byteSize cs = String.utf8Len cs := by
  induction cs with
  | nil => rfl
  | cons c cs ih => rw [byteSize, ih, String.utf8Len_cons, Nat.add_comm]

theorem byteSize_append (front back : List Char) :
    byteSize (front ++ back) = byteSize front + byteSize back := by
  simp only [byteSize_eq_utf8Len, String.utf8Len_append]

theorem prefix_of_byteSize_le {first second text : List Char} (one : first <+: text)
    (two : second <+: text) (smaller : byteSize first ≤ byteSize second) : first <+: second := by
  rcases List.prefix_or_prefix_of_prefix one two with shorter | ⟨rest, rfl⟩
  · exact shorter
  · have empty : rest = [] := by
      rw [byteSize_append] at smaller
      rw [← String.utf8Len_eq_zero, ← byteSize_eq_utf8Len]
      omega
    exact ⟨[], by rw [empty, List.append_nil, List.append_nil]⟩

theorem charsIn_byteSize (within rest : List Char) :
    charsIn (byteSize within) (within ++ rest) = some within.length := by
  induction within with
  | nil => rw [byteSize, charsIn, List.length_nil]
  | cons c within ih =>
      have positive := c.utf8Size_pos
      obtain ⟨n, size⟩ : ∃ n, byteSize (c :: within) = n + 1 :=
        ⟨byteSize (c :: within) - 1, by rw [byteSize]; omega⟩
      have rest : n + 1 - c.utf8Size = byteSize within := by rw [← size, byteSize]; omega
      have fits : c.utf8Size ≤ n + 1 := by rw [← size, byteSize]; omega
      rw [size, List.cons_append, charsIn, if_pos fits, rest, ih]
      rfl

def startsAfter (offset : Nat) : List Char → List Nat
  | [] => []
  | c :: cs =>
    if c = '\n' ∨ (c = '\r' ∧ cs.head? ≠ some '\n') then
      (offset + c.utf8Size) :: startsAfter (offset + c.utf8Size) cs
    else startsAfter (offset + c.utf8Size) cs

/-- Where lines start: at the beginning, after every line feed, and after every carriage return that
no line feed follows. -/
def lineStarts (text : List Char) : List Nat := 0 :: startsAfter 0 text

def Line.starts (offset : Nat) : List Line → List Nat
  | [] => []
  | line :: lines => offset :: starts (offset + line.size) lines

theorem Line.size_extend (c : Char) (line : Line) :
    size { line with text := c :: line.text } = c.utf8Size + line.size := rfl

theorem Line.starts_split (offset : Nat) (text : List Char) :
    offset :: startsAfter offset text = starts offset (split text) := by
  fun_induction split text generalizing offset with
  | case1 => rfl
  | case2 text ih =>
      have skip : startsAfter offset ('\r' :: '\n' :: text) =
          (offset + 2) :: startsAfter (offset + 2) text := rfl
      rw [skip, ih]
      rfl
  | case3 text lone ih =>
      have ends : text.head? ≠ some '\n' := by
        intro feed
        obtain ⟨rest, same⟩ := List.head?_eq_some_iff.mp feed
        exact lone rest same
      rw [startsAfter, if_pos (Or.inr ⟨rfl, ends⟩), ih]
      rfl
  | case4 text ih =>
      rw [startsAfter, if_pos (Or.inl rfl), ih]
      rfl
  | case5 c text notBoth notReturn notFeed ih =>
      have stays : ¬ (c = '\n' ∨ (c = '\r' ∧ text.head? ≠ some '\n')) := by
        rintro (rfl | ⟨rfl, _⟩)
        · exact notFeed rfl
        · exact notReturn rfl
      have later := ih (offset + c.utf8Size)
      rw [startsAfter, if_neg stays]
      cases cut : split text with
      | nil => exact absurd cut (split_ne_nil text)
      | cons line lines =>
          rw [cut, starts] at later
          rw [extend, starts, size_extend, ← Nat.add_assoc, (List.cons.inj later).2]

def Line.contents (lines : List Line) : List Char := lines.flatMap content

theorem Line.byteSize_contents_cons (line : Line) (lines : List Line) :
    byteSize (contents (line :: lines)) = line.size + byteSize (contents lines) := by
  rw [contents, List.flatMap_cons, byteSize_append]
  rfl

theorem Line.byteSize_contents_append (earlier later : List Line) :
    byteSize (contents (earlier ++ later)) =
      byteSize (contents earlier) + byteSize (contents later) := by
  rw [contents, List.flatMap_append, byteSize_append]
  rfl

theorem Line.contents_split (text : List Char) : contents (split text) = text := by
  obtain ⟨layout, _, rfl, cut⟩ := Layout.exists_of_split text
  rw [cut, contents, Layout.lines, List.flatMap_append, List.flatMap_map]
  simp [Layout.whole, content]

theorem Line.getElem?_starts (offset : Nat) (lines : List Line) (i : Nat) :
    (starts offset lines)[i]? =
      if i < lines.length then some (offset + byteSize (contents (lines.take i))) else none := by
  induction lines generalizing offset i with
  | nil => simp [starts]
  | cons line lines ih =>
      cases i with
      | zero => simp [starts, contents, byteSize]
      | succ i =>
          rw [starts, List.getElem?_cons_succ, ih, List.take_succ_cons, byteSize_contents_cons]
          simp only [List.length_cons, Nat.add_lt_add_iff_right, Nat.add_assoc]

theorem getElem?_lineStarts (text : List Char) (i : Nat) :
    (lineStarts text)[i]? = if i < (Line.split text).length then
      some (byteSize (Line.contents ((Line.split text).take i))) else none := by
  rw [lineStarts, Line.starts_split, Line.getElem?_starts]
  simp only [Nat.zero_add]

namespace LineMap

theorem end_le_of_later (text : List Char) (earlier later : List Line) (line : Line)
    (lines : Line.split text = earlier ++ line :: later) (i start : Nat)
    (after : earlier.length < i) (found : (lineStarts text)[i]? = some start) :
    later ≠ [] ∧ byteSize (Line.contents earlier) + line.size ≤ start := by
  rw [getElem?_lineStarts, lines] at found
  obtain ⟨inside, same⟩ := Option.ite_none_right_eq_some.mp found
  constructor
  · rintro rfl
    simp only [List.length_append, List.length_singleton] at inside
    omega
  · have own : (earlier ++ line :: later).take i =
        earlier ++ line :: later.take (i - earlier.length - 1) := by
      obtain ⟨more, rfl⟩ : ∃ more, i = earlier.length + (more + 1) :=
        ⟨i - earlier.length - 1, by omega⟩
      rw [List.take_length_add_append, List.take_succ_cons]
      congr 3
      omega
    rw [own, Line.byteSize_contents_append, Line.byteSize_contents_cons] at same
    have bound := Option.some.inj same
    omega

theorem locate_cases (lines : List Line) (offset : Nat) (inhabited : lines ≠ []) :
    ∃ earlier line later, lines = earlier ++ line :: later ∧
      (locate lines offset).line = earlier.length ∧
      byteSize (Line.contents earlier) ≤ offset ∧
      (later ≠ [] → offset < byteSize (Line.contents earlier) + line.size) ∧
      (locate lines offset).column =
        line.column (min (offset - byteSize (Line.contents earlier)) line.size) := by
  fun_induction locate lines offset with
  | case1 offset => exact absurd rfl inhabited
  | case2 line offset => exact ⟨[], line, [], rfl, rfl, Nat.zero_le offset, by simp, rfl⟩
  | case3 line next lines offset before =>
      refine ⟨[], line, next :: lines, rfl, rfl, Nat.zero_le offset, ?_, ?_⟩
      · intro _
        simpa [Line.contents, byteSize] using before
      · have inside : min (offset - byteSize (Line.contents [])) line.size = offset := by
          simp only [Line.contents, List.flatMap_nil, byteSize]
          omega
        rw [inside]
  | case4 line next lines offset after found ih =>
      obtain ⟨earlier, own, later, split, index, reached, within, column⟩ := ih (by simp)
      refine ⟨line :: earlier, own, later, congrArg (line :: ·) split, ?_, ?_, ?_, ?_⟩
      · exact congrArg (· + 1) index
      · rw [Line.byteSize_contents_cons]
        omega
      · intro more
        have bound := within more
        rw [Line.byteSize_contents_cons]
        omega
      · rw [Line.byteSize_contents_cons, Nat.sub_add_eq]
        exact column

theorem locate_line_lt (lines : List Line) (offset : Nat) (inhabited : lines ≠ []) :
    (locate lines offset).line < lines.length := by
  obtain ⟨earlier, line, later, rfl, index, _⟩ := locate_cases lines offset inhabited
  simp [index]

theorem locate_of_le (lines : List Line) (offset : Nat)
    (past : byteSize (Line.contents lines) ≤ offset) :
    locate lines offset = locate lines (byteSize (Line.contents lines)) := by
  fun_induction locate lines offset with
  | case1 offset => rfl
  | case2 line offset =>
      have size : byteSize (Line.contents [line]) = line.size := by
        simp [Line.contents, Line.size]
      rw [size] at past ⊢
      rw [locate, Nat.min_eq_right past, Nat.min_self]
  | case3 line next lines offset before =>
      rw [Line.byteSize_contents_cons] at past
      omega
  | case4 line next lines offset after found ih =>
      rw [Line.byteSize_contents_cons] at past ⊢
      have rest := ih (by omega)
      rw [locate, if_neg (by omega), Nat.add_sub_cancel_left, ← rest]

end LineMap

def Position.Before (first second : Position) : Prop :=
  first.line < second.line ∨ (first.line = second.line ∧ first.column < second.column)

/-- The offset that is reached from the start of a line by walking over as many characters as the
column counts. -/
def offsetAt (text : List Char) (position : Position) : Option Nat :=
  (lineStarts text)[position.line]?.bind fun start =>
    (charsIn start text).map fun skipped => byteSize (text.take (skipped + position.column))

/-- A position of an offset in a text: its line is the last that starts at or before the offset, and
its column counts the characters between that start and the offset. -/
structure Places (text : List Char) (offset : Nat) (position : Position)
    (before within after : List Char) : Prop where
  whole : text = before ++ within ++ after
  reached : byteSize before + byteSize within = offset
  started : (lineStarts text)[position.line]? = some (byteSize before)
  last : ∀ line start, position.line < line → (lineStarts text)[line]? = some start → offset < start
  counted : within.length = position.column

namespace LineMap

theorem places_locate (before after : List Char) :
    ∃ front within, Places (before ++ after) (byteSize before)
      (locate (Line.split (before ++ after)) (byteSize before)) front within after := by
  obtain ⟨earlier, line, later, lines, index, reached, bounded, column⟩ :=
    locate_cases (Line.split (before ++ after)) (byteSize before) (Line.split_ne_nil _)
  have text : Line.contents earlier ++ (line.content ++ Line.contents later) = before ++ after := by
    rw [← Line.contents_split (before ++ after), lines]
    simp [Line.contents]
  obtain ⟨within, rfl⟩ : Line.contents earlier <+: before :=
    prefix_of_byteSize_le ⟨_, text⟩ (List.prefix_append before after) reached
  have rest : line.content ++ Line.contents later = within ++ after := by
    rw [List.append_assoc] at text
    exact List.append_cancel_left text
  -- The offset is in the line, or at its end if it is the last one.
  have inside : within <+: line.content := by
    by_cases more : later = []
    · rw [more] at rest
      exact ⟨after, by simpa [Line.contents] using rest.symm⟩
    · have bound := bounded more
      rw [byteSize_append] at bound
      exact prefix_of_byteSize_le ⟨after, rest.symm⟩ ⟨Line.contents later, rfl⟩
        (by rw [← Line.size]; omega)
  obtain ⟨tail, content⟩ := inside
  have size : line.size = byteSize within + byteSize tail := by
    rw [Line.size, ← content, byteSize_append]
  refine ⟨Line.contents earlier, within, rfl, (byteSize_append _ _).symm, ?_, ?_, ?_⟩
  · rw [index, getElem?_lineStarts, lines, List.take_left, if_pos (by simp)]
  · intro i start later found
    rw [index] at later
    obtain ⟨more, bound⟩ := end_le_of_later _ _ _ _ lines i start later found
    have reach := bounded more
    omega
  · have offset : min (byteSize (Line.contents earlier ++ within) -
        byteSize (Line.contents earlier)) line.size = byteSize within := by
      rw [byteSize_append]
      omega
    rw [column, offset, Line.column, ← content, charsIn_byteSize]
    rfl

end LineMap

namespace Places

variable {text before within after front inner rest : List Char} {offset later : Nat}
  {position next : Position}

theorem skipped (places : Places text offset position before within after) :
    charsIn (byteSize before) text = some before.length := by
  rw [places.whole, List.append_assoc, charsIn_byteSize]

theorem offsetAt_eq (places : Places text offset position before within after) :
    offsetAt text position = some offset := by
  have walked : text.take (before.length + position.column) = before ++ within := by
    rw [places.whole, ← places.counted, ← List.length_append, List.take_left]
  rw [offsetAt, places.started, Option.bind_some, places.skipped, Option.map_some, walked,
    byteSize_append, places.reached]

theorem ordered (one : Places text offset position before within after)
    (two : Places text later next front inner rest) (less : offset < later) :
    position.Before next := by
  have reached := one.reached
  have reachedToo := two.reached
  rcases Nat.lt_trichotomy position.line next.line with earlier | same | further
  · exact Or.inl earlier
  · refine Or.inr ⟨same, ?_⟩
    have starts : before.length = front.length := by
      have started := one.started
      rw [same, two.started] at started
      have counted := two.skipped
      rw [Option.some.inj started, one.skipped] at counted
      exact Option.some.inj counted
    obtain ⟨more, longer⟩ : before ++ within <+: front ++ inner :=
      prefix_of_byteSize_le ⟨after, one.whole.symm⟩ ⟨rest, two.whole.symm⟩
        (by rw [byteSize_append, byteSize_append]; omega)
    have inhabited : more ≠ [] := by
      rintro rfl
      have sizes := congrArg byteSize longer
      simp only [List.append_nil, byteSize_append] at sizes
      omega
    have lengths := congrArg List.length longer
    have positive := List.length_pos_iff.mpr inhabited
    have counted := one.counted
    have countedToo := two.counted
    simp only [List.length_append] at lengths
    omega
  · have behind := two.last position.line (byteSize before) further one.started
    omega

end Places

theorem exists_append_of_isValid {text : String} {offset : Nat}
    (boundary : String.Pos.Raw.IsValid text ⟨offset⟩) :
    ∃ before after, text.toList = before ++ after ∧ byteSize before = offset := by
  obtain ⟨first, second, rfl, position⟩ := String.Pos.Raw.isValid_iff_exists_append.mp boundary
  refine ⟨first.toList, second.toList, String.toList_append, ?_⟩
  rw [byteSize_eq_utf8Len, String.utf8Len_toList]
  exact (congrArg String.Pos.Raw.byteIdx position).symm

namespace LineMap

theorem exists_places (text : String) (offset : Nat)
    (boundary : String.Pos.Raw.IsValid text ⟨offset⟩) :
    ∃ before within after,
      Places text.toList offset ((ofText text).position offset) before within after := by
  obtain ⟨before, after, whole, rfl⟩ := exists_append_of_isValid boundary
  obtain ⟨front, within, places⟩ := places_locate before after
  rw [← whole] at places
  exact ⟨front, within, after, places⟩

/-- On the boundaries of characters an offset and its position determine each other, in the same
order. Past the end of the text the position is that of the end, and wherever the offset lies, its
line is a line of the text. -/
theorem position_invertible (text : String) :
    (∀ offset, String.Pos.Raw.IsValid text ⟨offset⟩ →
      (∃ before within after,
        Places text.toList offset ((ofText text).position offset) before within after) ∧
      offsetAt text.toList ((ofText text).position offset) = some offset) ∧
    (∀ first second, String.Pos.Raw.IsValid text ⟨first⟩ → String.Pos.Raw.IsValid text ⟨second⟩ →
      ((ofText text).position first = (ofText text).position second → first = second) ∧
      (first < second → ((ofText text).position first).Before ((ofText text).position second))) ∧
    (∀ offset, text.utf8ByteSize < offset →
      (ofText text).position offset = (ofText text).position text.utf8ByteSize) ∧
    ∀ offset, ((ofText text).position offset).line < (ofText text).lineCount ∧
      ((ofText text).lineText ((ofText text).position offset).line).isSome := by
  refine ⟨?_, ?_, ?_, ?_⟩
  · intro offset boundary
    obtain ⟨before, within, after, places⟩ := exists_places text offset boundary
    exact ⟨⟨before, within, after, places⟩, places.offsetAt_eq⟩
  · intro first second boundary boundaryToo
    obtain ⟨_, _, _, one⟩ := exists_places text first boundary
    obtain ⟨_, _, _, two⟩ := exists_places text second boundaryToo
    constructor
    · intro same
      have inverse := one.offsetAt_eq
      rw [same, two.offsetAt_eq] at inverse
      exact (Option.some.inj inverse).symm
    · exact one.ordered two
  · intro offset past
    have size : byteSize (Line.contents (ofText text).lines) = text.utf8ByteSize := by
      rw [ofText, Line.contents_split, byteSize_eq_utf8Len, String.utf8Len_toList]
    rw [position, position, ← size]
    exact locate_of_le (ofText text).lines offset (by omega)
  · intro offset
    have bound := locate_line_lt (ofText text).lines offset (Line.split_ne_nil _)
    refine ⟨bound, ?_⟩
    rw [lineText, position, List.getElem?_eq_getElem bound]
    rfl

/-- Before a two-byte character, inside it, between the characters of a terminator, at the start of a
line and past the end. -/
example : [0, 1, 3, 4, 9].map (ofText "é\r\nb").position =
    [⟨0, 0⟩, ⟨0, 0⟩, ⟨0, 2⟩, ⟨1, 0⟩, ⟨1, 1⟩] := by
  cbv

end LineMap

end ConventionLint
