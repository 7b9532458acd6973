import ConventionLint.Proofs.Message.Pieces

/-!
Filling a template is simultaneous substitution.

A template has exactly one cut into single characters and placeholders in which every placeholder of
the template, wherever it stands, is a segment of its own. The cut is settled by the template and the
number of arguments. A message is this cut with the arguments put in, so it cannot matter what the
arguments themselves contain.
-/
namespace ConventionLint.Message

def Spelled (name : List Char) (index : Nat) : Prop :=
  ∃ sign digits, name = sign ++ digits ∧ (sign = [] ∨ sign = ['+']) ∧ digits ≠ [] ∧
    (∀ c ∈ digits, c.isDigit = true) ∧ Decimal.value digits = index

structure Names (count : Nat) (name : List Char) (index : Nat) : Prop where
  spelled : Spelled name index
  word : index < 18446744073709551616
  inside : index < count

def braced (name : List Char) : List Char := '{' :: (name ++ ['}'])

inductive Segment where
  | char (c : Char)
  | placeholder (name : List Char) (index : Nat)
  deriving DecidableEq, Repr

namespace Segment

def written : Segment → List Char
  | char c => [c]
  | placeholder name _ => braced name

def filled (args : List String) : Segment → List Char
  | char c => [c]
  | placeholder _ index => (args.getD index "").toList

def piece : Segment → Piece
  | char c => .char c
  | placeholder _ index => .slot index

theorem fill_piece (args : List String) (segment : Segment) :
    segment.piece.fill args = segment.filled args := by
  cases segment with
  | char c => rfl
  | placeholder name index => rw [piece, Piece.fill, filled, List.getD_eq_getElem?_getD]

theorem written_ne_nil (segment : Segment) : segment.written ≠ [] := by
  cases segment with
  | char c => simp [written]
  | placeholder name index => simp [written, braced]

end Segment

/-- The segments make up the template; those that are placeholders name an argument; and wherever
the name of an argument stands between braces, that is one of the segments. -/
structure Cut (count : Nat) (template : List Char) (segments : List Segment) : Prop where
  whole : segments.flatMap Segment.written = template
  named : ∀ name index, Segment.placeholder name index ∈ segments → Names count name index
  complete : ∀ before name index after, template = before ++ braced name ++ after →
    Names count name index → ∃ front back, segments = front ++ .placeholder name index :: back ∧
      front.flatMap Segment.written = before ∧ back.flatMap Segment.written = after

namespace Names

theorem brace_not_mem {count index : Nat} {name : List Char} (names : Names count name index)
    (brace : Char) (curly : brace = '{' ∨ brace = '}') : brace ∉ name := by
  obtain ⟨sign, digits, rfl, signed, _, numeric, _⟩ := names.spelled
  have notDigit : brace ∉ digits := by
    intro member
    have digit := numeric brace member
    rcases curly with rfl | rfl <;> exact absurd digit (by decide)
  have notSign : brace ∉ sign := by
    rcases signed with rfl | rfl
    · simp
    · rcases curly with rfl | rfl <;> decide
  rw [List.mem_append, not_or]
  exact ⟨notSign, notDigit⟩

end Names

theorem digits?_eq_some (cs : List Char) (value : Nat) :
    digits? cs = some value ↔
      cs ≠ [] ∧ (∀ c ∈ cs, c.isDigit = true) ∧ Decimal.value cs = value := by
  by_cases numeric : (!cs.isEmpty && cs.all Char.isDigit) = true
  · rw [digits?, if_pos numeric]
    simp_all
  · rw [digits?, if_neg numeric]
    simp only [reduceCtorEq, false_iff]
    rintro ⟨inhabited, digits, _⟩
    exact numeric (by simpa [inhabited] using digits)

theorem spelled_plus (digits : List Char) (index : Nat) :
    Spelled ('+' :: digits) index ↔ digits? digits = some index := by
  rw [digits?_eq_some]
  constructor
  · rintro ⟨sign, rest, same, rfl | rfl, _, numeric, value⟩
    · rw [List.nil_append] at same
      exact absurd (numeric '+' (same ▸ List.mem_cons_self)) (by decide)
    · cases same
      exact ⟨‹_›, numeric, value⟩
  · rintro ⟨inhabited, numeric, value⟩
    exact ⟨['+'], digits, rfl, Or.inr rfl, inhabited, numeric, value⟩

theorem spelled_unsigned (name : List Char) (index : Nat)
    (unsigned : ∀ digits, name ≠ '+' :: digits) :
    Spelled name index ↔ digits? name = some index := by
  rw [digits?_eq_some]
  constructor
  · rintro ⟨sign, digits, same, rfl | rfl, inhabited, numeric, value⟩
    · rw [same]
      exact ⟨inhabited, numeric, value⟩
    · exact absurd same (unsigned digits)
  · rintro ⟨inhabited, numeric, value⟩
    exact ⟨[], name, rfl, Or.inl rfl, inhabited, numeric, value⟩

theorem index?_eq_some (name : List Char) (index : Nat) :
    index? name = some index ↔ Spelled name index ∧ index < 18446744073709551616 := by
  unfold index?
  split
  · next digits =>
      rw [spelled_plus, Option.filter_eq_some_iff, decide_eq_true_eq]
  · next unsigned =>
      rw [spelled_unsigned name index unsigned, Option.filter_eq_some_iff, decide_eq_true_eq]

/-- A slot is the name of an argument up to a closing brace. Names have no brace in them, so it is
the first closing brace that counts. -/
theorem slot?_eq_some (count index : Nat) (cs rest : List Char) :
    slot? count cs = some (index, rest) ↔
      ∃ name, cs = name ++ '}' :: rest ∧ Names count name index := by
  constructor
  · intro found
    have whole := List.takeWhile_append_dropWhile (p := (· != '}')) (l := cs)
    have closing := List.head?_dropWhile_not (· != '}') cs
    unfold slot? at found
    split at found
    · cases found
    · next c tail cut =>
        split at found
        · cases found
        · next value read =>
            split at found
            · next inside =>
                cases found
                obtain ⟨spelled, word⟩ := (index?_eq_some _ index).mp read
                rw [cut] at whole closing
                have brace : c = '}' := by simpa using closing
                subst brace
                exact ⟨cs.takeWhile (· != '}'), whole.symm, spelled, word, inside⟩
            · cases found
  · rintro ⟨name, rfl, names⟩
    have unclosed : ∀ c ∈ name, (c != '}') = true := by
      intro c member
      have other : c ≠ '}' := by
        rintro rfl
        exact names.brace_not_mem '}' (Or.inr rfl) member
      simpa using other
    have read := (index?_eq_some name index).mpr ⟨names.spelled, names.word⟩
    have front : (name ++ '}' :: rest).takeWhile (· != '}') = name := by
      rw [List.takeWhile_append_of_pos unclosed]
      simp
    have back : (name ++ '}' :: rest).dropWhile (· != '}') = '}' :: rest := by
      rw [List.dropWhile_append_of_pos unclosed]
      simp
    rw [slot?, back, front, read]
    exact if_pos names.inside

theorem eq_of_closed {count first second : Nat} {name other rest tail : List Char}
    (one : Names count name first) (two : Names count other second)
    (same : name ++ '}' :: rest = other ++ '}' :: tail) :
    first = second ∧ name = other ∧ rest = tail := by
  have left := (slot?_eq_some count first _ rest).mpr ⟨name, rfl, one⟩
  have right := (slot?_eq_some count second _ tail).mpr ⟨other, same, two⟩
  rw [left] at right
  cases right
  exact ⟨rfl, List.append_cancel_right same, rfl⟩

theorem after_placeholder {count index : Nat} {name before template rest : List Char}
    (names : Names count name index)
    (same : name ++ '}' :: template = before ++ '{' :: rest) :
    ∃ more, before = name ++ '}' :: more ∧ template = more ++ '{' :: rest := by
  rcases List.append_eq_append_iff.mp same with ⟨more, start, stop⟩ | ⟨more, start, stop⟩
  · cases more with
    | nil => exact absurd (List.cons.inj stop).1 (by decide)
    | cons c more =>
        obtain ⟨rfl, later⟩ := List.cons.inj stop
        exact ⟨more, start, later⟩
  · cases more with
    | nil => exact absurd (List.cons.inj stop).1 (by decide)
    | cons c more =>
        obtain ⟨rfl, _⟩ := List.cons.inj stop
        have inside : '{' ∈ name := by simp [start]
        exact absurd inside (names.brace_not_mem '{' (Or.inl rfl))

theorem Cut.nil (count : Nat) : Cut count [] [] where
  whole := rfl
  named := by simp
  complete := by
    intro before name index after same
    simp [braced] at same

theorem Cut.char {count : Nat} {c : Char} {template : List Char} {segments : List Segment}
    (cut : Cut count template segments)
    (plain : ∀ name index after, c :: template = braced name ++ after →
      ¬ Names count name index) :
    Cut count (c :: template) (.char c :: segments) where
  whole := congrArg (c :: ·) cut.whole
  named := by
    intro name index member
    exact cut.named name index (by simpa using member)
  complete := by
    intro before name index after same names
    cases before with
    | nil => exact absurd names (plain name index after same)
    | cons d before =>
        obtain ⟨rfl, rest⟩ := List.cons.inj same
        obtain ⟨front, back, rfl, start, stop⟩ := cut.complete before name index after rest names
        exact ⟨.char c :: front, back, rfl, congrArg (c :: ·) start, stop⟩

theorem Cut.placeholder {count index : Nat} {name template : List Char} {segments : List Segment}
    (cut : Cut count template segments) (names : Names count name index) :
    Cut count (braced name ++ template) (.placeholder name index :: segments) where
  whole := by
    rw [List.flatMap_cons, cut.whole]
    rfl
  named := by
    intro other number member
    rcases List.mem_cons.mp member with same | later
    · cases same
      exact names
    · exact cut.named other number later
  complete := by
    intro before other number after same occurs
    cases before with
    | nil =>
        have inner : name ++ '}' :: template = other ++ '}' :: after := by
          simpa [braced] using same
        obtain ⟨rfl, rfl, rfl⟩ := eq_of_closed names occurs inner
        exact ⟨[], segments, rfl, rfl, cut.whole⟩
    | cons c before =>
        have inner : name ++ '}' :: template = before ++ '{' :: (other ++ '}' :: after) := by
          simpa [braced] using (List.cons.inj same).2
        have brace : c = '{' := (List.cons.inj same).1.symm
        obtain ⟨more, rfl, rest⟩ := after_placeholder names inner
        have later : template = more ++ braced other ++ after := by
          simpa [braced] using rest
        obtain ⟨front, back, rfl, start, stop⟩ := cut.complete more other number after later occurs
        refine ⟨.placeholder name index :: front, back, rfl, ?_, stop⟩
        rw [List.flatMap_cons, start, brace]
        simp [Segment.written, braced]

theorem exists_cut (count : Nat) (template : List Char) :
    ∃ segments, Cut count template segments ∧ pieces count template = segments.map Segment.piece := by
  fun_induction pieces count template with
  | case1 => exact ⟨[], .nil count, rfl⟩
  | case2 cs index rest found ih =>
      obtain ⟨segments, cut, same⟩ := ih
      obtain ⟨name, rfl, names⟩ := (slot?_eq_some count index _ rest).mp found
      have placed := cut.placeholder names
      refine ⟨.placeholder name index :: segments, ?_, ?_⟩
      · simpa [braced] using placed
      · rw [same]
        rfl
  | case3 cs missing ih =>
      obtain ⟨segments, cut, same⟩ := ih
      refine ⟨.char '{' :: segments, cut.char ?_, ?_⟩
      · intro name index after opens names
        have inner : cs = name ++ '}' :: after := by
          simpa [braced] using opens
        have found := (slot?_eq_some count index cs after).mpr ⟨name, inner, names⟩
        rw [missing] at found
        cases found
      · rw [same]
        rfl
  | case4 c cs other ih =>
      obtain ⟨segments, cut, same⟩ := ih
      refine ⟨.char c :: segments, cut.char ?_, ?_⟩
      · intro name index after opens
        exact absurd (List.cons.inj opens).1 other
      · rw [same]
        rfl

theorem Cut.head_eq_placeholder {count index : Nat} {template name after : List Char}
    {segments : List Segment} (cut : Cut count template segments)
    (opens : template = braced name ++ after) (names : Names count name index) :
    ∃ back, segments = .placeholder name index :: back := by
  obtain ⟨front, back, rfl, start, _⟩ := cut.complete [] name index after opens names
  cases front with
  | nil => exact ⟨back, rfl⟩
  | cons segment front =>
      rw [List.flatMap_cons, List.append_eq_nil_iff] at start
      exact absurd start.1 segment.written_ne_nil

theorem Cut.tail {count : Nat} {template : List Char} {segment : Segment} {segments : List Segment}
    (cut : Cut count template (segment :: segments)) :
    Cut count (segments.flatMap Segment.written) segments where
  whole := rfl
  named := by
    intro name index member
    exact cut.named name index (List.mem_cons_of_mem segment member)
  complete := by
    intro before name index after same names
    have shifted : template = (segment.written ++ before) ++ braced name ++ after := by
      rw [← cut.whole, List.flatMap_cons, same]
      simp only [List.append_assoc]
    obtain ⟨front, back, split, start, stop⟩ := cut.complete _ name index after shifted names
    cases front with
    | nil =>
        have empty : segment.written ++ before = [] := start.symm
        exact absurd (List.append_eq_nil_iff.mp empty).1 segment.written_ne_nil
    | cons other front =>
        obtain ⟨rfl, rest⟩ := List.cons.inj split
        rw [List.flatMap_cons] at start
        exact ⟨front, back, rest, List.append_cancel_left start, stop⟩

theorem Cut.unique {count : Nat} {template : List Char} {first second : List Segment}
    (one : Cut count template first) (two : Cut count template second) : first = second := by
  induction first generalizing template second with
  | nil =>
      cases second with
      | nil => rfl
      | cons segment second =>
          have same : segment.written ++ second.flatMap Segment.written = [] :=
            two.whole.trans one.whole.symm
          exact absurd (List.append_eq_nil_iff.mp same).1 segment.written_ne_nil
  | cons segment first ih =>
      cases second with
      | nil =>
          have same : segment.written ++ first.flatMap Segment.written = [] :=
            one.whole.trans two.whole.symm
          exact absurd (List.append_eq_nil_iff.mp same).1 segment.written_ne_nil
      | cons other second =>
          -- A placeholder at the front of the template is the first segment of every cut.
          have heads : segment = other := by
            have same : segment.written ++ first.flatMap Segment.written =
                other.written ++ second.flatMap Segment.written := one.whole.trans two.whole.symm
            cases segment with
            | placeholder name index =>
                have names := one.named name index List.mem_cons_self
                obtain ⟨back, split⟩ := two.head_eq_placeholder one.whole.symm names
                exact (List.cons.inj split).1.symm
            | char c =>
                cases other with
                | placeholder name index =>
                    have names := two.named name index List.mem_cons_self
                    obtain ⟨back, split⟩ := one.head_eq_placeholder two.whole.symm names
                    exact (List.cons.inj split).1
                | char d => rw [(List.cons.inj same).1]
          subst heads
          have rests : first.flatMap Segment.written = second.flatMap Segment.written := by
            have same := one.whole.trans two.whole.symm
            rw [List.flatMap_cons, List.flatMap_cons] at same
            exact List.append_cancel_left same
          have later := two.tail
          rw [← rests] at later
          rw [ih one.tail later]

/-- A template has one cut, which the number of arguments settles before any argument is known. The
message is the cut with the arguments in place of the placeholders that name them: characters are
kept, and what an argument holds is not looked at again. -/
theorem format_eq_filled_cut (template : String) (count : Nat) :
    ∃ segments, Cut count template.toList segments ∧
      (∀ other, Cut count template.toList other → other = segments) ∧
      ∀ args, args.length = count →
        format template args = String.ofList (segments.flatMap (Segment.filled args)) := by
  obtain ⟨segments, cut, same⟩ := exists_cut count template.toList
  refine ⟨segments, cut, fun other present => present.unique cut, ?_⟩
  rintro args rfl
  rw [format, same, List.flatMap_map]
  simp only [Segment.fill_piece]

/-- An unclosed brace, a brace before a placeholder, a doubled brace, a number without an argument
and a sign too many stay; leading zeros and one sign do not hide the number. -/
example : format "\x7b \x7b0\x7d \x7b\x7b1\x7d\x7d \x7b2\x7d \x7b++0\x7d \x7b+01\x7d \x7b0" ["\x7b1\x7d", "b"] =
    "\x7b \x7b1\x7d \x7bb\x7d \x7b2\x7d \x7b++0\x7d b \x7b0" := by
  cbv

end ConventionLint.Message
