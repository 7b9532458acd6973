import ConventionLint.LineMap

/-!
How a text falls into lines.

A layout is a number of lines, each with the terminator that ends it, and a last line without one.
Cutting a text gives a layout of it in which no line holds a carriage return or a line feed, and in
which a carriage return before a line feed is never a terminator of its own. A text has only one such
layout.
-/
namespace ConventionLint

structure Layout where
  ended : List (List Char × Terminator)
  last : List Char
  deriving DecidableEq, Repr

namespace Layout

def texts (layout : Layout) : List (List Char) := layout.ended.map Prod.fst ++ [layout.last]

def whole (layout : Layout) : List Char :=
  layout.ended.flatMap (fun entry => entry.1 ++ entry.2.chars) ++ layout.last

def lines (layout : Layout) : List Line :=
  layout.ended.map (fun entry => ⟨entry.1, some entry.2⟩) ++ [⟨layout.last, none⟩]

/-- The characters that end lines stand in terminators only, and a carriage return that is a
terminator is not followed by a line feed. -/
structure Proper (layout : Layout) : Prop where
  plain : ∀ line ∈ layout.texts, '\r' ∉ line ∧ '\n' ∉ line
  paired : ∀ before line after, layout.ended = before ++ (line, .carriageReturn) :: after →
    (whole ⟨after, layout.last⟩).head? ≠ some '\n'

def breakBefore (ending : Terminator) (layout : Layout) : Layout :=
  ⟨([], ending) :: layout.ended, layout.last⟩

def charBefore (c : Char) : Layout → Layout
  | ⟨[], last⟩ => ⟨[], c :: last⟩
  | ⟨(line, ending) :: ended, last⟩ => ⟨(c :: line, ending) :: ended, last⟩

theorem whole_breakBefore (ending : Terminator) (layout : Layout) :
    (layout.breakBefore ending).whole = ending.chars ++ layout.whole := by
  simp [breakBefore, whole]

theorem whole_charBefore (c : Char) (layout : Layout) :
    (layout.charBefore c).whole = c :: layout.whole := by
  obtain ⟨ended, last⟩ := layout
  cases ended with
  | nil => rfl
  | cons entry ended => rfl

theorem lines_charBefore (c : Char) (layout : Layout) :
    (layout.charBefore c).lines = Line.extend c layout.lines := by
  obtain ⟨ended, last⟩ := layout
  cases ended with
  | nil => rfl
  | cons entry ended => rfl

theorem proper_empty : Proper ⟨[], []⟩ where
  plain := by simp [texts]
  paired := by simp

theorem Proper.breakBefore {layout : Layout} (proper : layout.Proper) (ending : Terminator)
    (paired : ending = .carriageReturn → layout.whole.head? ≠ some '\n') :
    (layout.breakBefore ending).Proper where
  plain := by
    intro line member
    rcases List.mem_cons.mp member with rfl | later
    · simp
    · exact proper.plain line later
  paired := by
    intro before line after split
    cases before with
    | nil =>
        obtain ⟨first, rfl⟩ := List.cons.inj split
        exact paired (congrArg Prod.snd first)
    | cons entry before => exact proper.paired before line after (List.cons.inj split).2

theorem Proper.charBefore {layout : Layout} (proper : layout.Proper) (c : Char)
    (other : c ≠ '\r' ∧ c ≠ '\n') : (layout.charBefore c).Proper := by
  have extended : ∀ line, ('\r' ∉ line ∧ '\n' ∉ line) → '\r' ∉ c :: line ∧ '\n' ∉ c :: line := by
    intro line plain
    simp [plain, other.1.symm, other.2.symm]
  obtain ⟨ended, last⟩ := layout
  cases ended with
  | nil =>
      constructor
      · intro line member
        rw [List.mem_singleton.mp member]
        exact extended last (proper.plain last List.mem_cons_self)
      · intro before line after split
        simp [Layout.charBefore] at split
  | cons entry ended =>
      constructor
      · intro line member
        rcases List.mem_cons.mp member with rfl | later
        · exact extended entry.1 (proper.plain entry.1 List.mem_cons_self)
        · exact proper.plain line (List.mem_cons_of_mem entry.1 later)
      · intro before line after split
        cases before with
        | nil =>
            obtain ⟨first, rfl⟩ := List.cons.inj split
            have ending : entry.2 = .carriageReturn := congrArg Prod.snd first
            exact proper.paired [] entry.1 ended (by rw [← ending]; rfl)
        | cons other before =>
            exact proper.paired (entry :: before) line after
              (congrArg (entry :: ·) (List.cons.inj split).2)

theorem exists_of_split (text : List Char) :
    ∃ layout : Layout, layout.Proper ∧ layout.whole = text ∧ Line.split text = layout.lines := by
  fun_induction Line.split text with
  | case1 => exact ⟨⟨[], []⟩, proper_empty, rfl, rfl⟩
  | case2 text ih =>
      obtain ⟨layout, proper, rfl, cut⟩ := ih
      refine ⟨layout.breakBefore .both, proper.breakBefore .both (by simp),
        layout.whole_breakBefore .both, ?_⟩
      rw [cut]
      rfl
  | case3 text lone ih =>
      obtain ⟨layout, proper, rfl, cut⟩ := ih
      have paired : layout.whole.head? ≠ some '\n' := by
        intro feed
        obtain ⟨rest, same⟩ := List.head?_eq_some_iff.mp feed
        exact lone rest same
      refine ⟨layout.breakBefore .carriageReturn, proper.breakBefore .carriageReturn (fun _ => paired),
        layout.whole_breakBefore .carriageReturn, ?_⟩
      rw [cut]
      rfl
  | case4 text ih =>
      obtain ⟨layout, proper, rfl, cut⟩ := ih
      refine ⟨layout.breakBefore .lineFeed, proper.breakBefore .lineFeed (by simp),
        layout.whole_breakBefore .lineFeed, ?_⟩
      rw [cut]
      rfl
  | case5 c text notBoth notReturn notFeed ih =>
      obtain ⟨layout, proper, rfl, cut⟩ := ih
      refine ⟨layout.charBefore c, proper.charBefore c ⟨?_, ?_⟩, layout.whole_charBefore c, ?_⟩
      · rintro rfl
        exact notReturn rfl
      · rintro rfl
        exact notFeed rfl
      · rw [cut, lines_charBefore]

theorem Proper.tail {entry : List Char × Terminator} {ended : List (List Char × Terminator)}
    {last : List Char} (proper : Proper ⟨entry :: ended, last⟩) : Proper ⟨ended, last⟩ where
  plain := by
    intro line member
    exact proper.plain line (List.mem_cons_of_mem entry.1 member)
  paired := by
    intro before line after split
    exact proper.paired (entry :: before) line after (congrArg (entry :: ·) split)

end Layout

namespace Line

theorem split_ne_nil (text : List Char) : split text ≠ [] := by
  fun_cases split text with
  | case1 => simp
  | case2 text => simp
  | case3 text lone => simp
  | case4 text => simp
  | case5 c text _ _ _ =>
      cases split text with
      | nil => simp [extend]
      | cons line lines => simp [extend]

theorem split_char (c : Char) (text : List Char) (other : c ≠ '\r' ∧ c ≠ '\n') :
    split (c :: text) = extend c (split text) := by
  rw [split]
  · rintro rest rfl
    exact absurd rfl other.1
  · rintro rfl
    exact absurd rfl other.1
  · rintro rfl
    exact absurd rfl other.2

theorem split_lone_return (text : List Char) (lone : text.head? ≠ some '\n') :
    split ('\r' :: text) = ⟨[], some .carriageReturn⟩ :: split text := by
  rw [split]
  rintro rest rfl
  exact lone rfl

theorem split_last (line : List Char) (plain : '\r' ∉ line ∧ '\n' ∉ line) :
    split line = [⟨line, none⟩] := by
  induction line with
  | nil => rfl
  | cons c line ih =>
      simp only [List.mem_cons, not_or] at plain
      obtain ⟨⟨notReturn, noReturn⟩, notFeed, noFeed⟩ := plain
      rw [split_char c line ⟨Ne.symm notReturn, Ne.symm notFeed⟩, ih ⟨noReturn, noFeed⟩]
      rfl

theorem split_ended (line rest : List Char) (ending : Terminator)
    (plain : '\r' ∉ line ∧ '\n' ∉ line)
    (paired : ending = .carriageReturn → rest.head? ≠ some '\n') :
    split (line ++ ending.chars ++ rest) = ⟨line, some ending⟩ :: split rest := by
  induction line with
  | nil =>
      cases ending with
      | lineFeed => rfl
      | carriageReturn => exact split_lone_return rest (paired rfl)
      | both => rfl
  | cons c line ih =>
      simp only [List.mem_cons, not_or] at plain
      obtain ⟨⟨notReturn, noReturn⟩, notFeed, noFeed⟩ := plain
      rw [List.cons_append, List.cons_append, split_char c _ ⟨Ne.symm notReturn, Ne.symm notFeed⟩,
        ih ⟨noReturn, noFeed⟩]
      rfl

end Line

namespace Layout

theorem Proper.split_whole {layout : Layout} (proper : layout.Proper) :
    Line.split layout.whole = layout.lines := by
  obtain ⟨ended, last⟩ := layout
  induction ended with
  | nil => exact Line.split_last last (proper.plain last List.mem_cons_self)
  | cons entry ended ih =>
      have plain := proper.plain entry.1 List.mem_cons_self
      have paired : entry.2 = .carriageReturn → (whole ⟨ended, last⟩).head? ≠ some '\n' := by
        intro ending
        exact proper.paired [] entry.1 ended (by rw [← ending]; rfl)
      have cut := Line.split_ended entry.1 (whole ⟨ended, last⟩) entry.2 plain paired
      rw [ih proper.tail] at cut
      simpa [whole, lines] using cut

theorem lines_injective {first second : Layout} (same : first.lines = second.lines) :
    first = second := by
  obtain ⟨ended, last⟩ := first
  obtain ⟨ended', last'⟩ := second
  obtain ⟨front, back⟩ := List.append_inj' same rfl
  have entries : ended = ended' := by
    refine (List.map_inj_right ?_).mp front
    rintro ⟨line, ending⟩ ⟨line', ending'⟩ equal
    simpa using equal
  have lasts : last = last' := by simpa using back
  rw [entries, lasts]

end Layout

namespace LineMap

/-- The lines of a text are the lines of a proper layout of it, and of no other layout. A line can be
asked for exactly if its number is below the number of lines. -/
theorem ofText_layout (text : String) :
    ∃ layout : Layout, layout.Proper ∧ layout.whole = text.toList ∧
      (∀ other : Layout, other.Proper → other.whole = text.toList → other = layout) ∧
      (ofText text).lineCount = layout.ended.length + 1 ∧
      ∀ i, (ofText text).lineText i = layout.texts[i]?.map String.ofList := by
  obtain ⟨layout, proper, whole, cut⟩ := Layout.exists_of_split text.toList
  refine ⟨layout, proper, whole, ?_, ?_, ?_⟩
  · intro other properToo wholeToo
    apply Layout.lines_injective
    rw [← properToo.split_whole, wholeToo, cut]
  · simp [lineCount, ofText, cut, Layout.lines]
  · intro i
    have texts : layout.texts = layout.lines.map Line.text := by
      simp [Layout.texts, Layout.lines, Function.comp_def]
    simp only [lineText, ofText, cut, texts, List.getElem?_map, Option.map_map]
    rfl

/-- After a lone carriage return comes one that a line feed follows, then a line feed, then a
carriage return at the end of the text: four line ends, and an empty last line. -/
example : (Line.split "a\r\r\n\nb\r".toList).map Line.content =
    [['a', '\r'], ['\r', '\n'], ['\n'], ['b', '\r'], []] := by
  decide

end LineMap

end ConventionLint
