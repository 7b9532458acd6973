import ConventionLint.Text.WhiteSpace
import Mathlib.Data.List.DropRight
import Mathlib.Data.List.Forall2
import Mathlib.Data.List.TakeWhile

/-!
What trimming leaves of a text, and which texts fold to a name.

Trimming is described by what it leaves: a core that neither begins nor ends with white space, out of a text
that has only white space around the core. A name is compared in small letters. Folding knows only those of
ASCII, but no other lower case would accept another text: of all characters that are not ASCII only the Kelvin
sign has a small letter that is, which is `k`, and no name has this letter.
-/
namespace ConventionLint.Text

def Blank (text : List Char) : Prop := ∀ c ∈ text, isWhiteSpace c = true

structure Bare (text : List Char) : Prop where
  first : ∀ c ∈ text.head?, isWhiteSpace c = false
  last : ∀ c ∈ text.getLast?, isWhiteSpace c = false

structure Framed (core text : List Char) : Prop where
  bare : Bare core
  around : ∃ left right, Blank left ∧ Blank right ∧ text = left ++ core ++ right

theorem trimStart_bare_start (text : List Char) :
    ∀ c ∈ (trimStart text).head?, isWhiteSpace c = false := by
  intro c begins
  have stops := List.head?_dropWhile_not isWhiteSpace text
  rw [show (text.dropWhile isWhiteSpace).head? = some c from begins] at stops
  exact stops

theorem trimEnd_bare_end (text : List Char) :
    ∀ c ∈ (trimEnd text).getLast?, isWhiteSpace c = false := by
  intro c ends
  have reversed : (trimEnd text).getLast? = (trimStart text.reverse).head? := by
    rw [trimEnd, List.getLast?_reverse]
    rfl
  exact trimStart_bare_start text.reverse c (reversed ▸ ends)

theorem trimEnd_bare_start (text : List Char) (starts : ∀ c ∈ text.head?, isWhiteSpace c = false) :
    ∀ c ∈ (trimEnd text).head?, isWhiteSpace c = false := by
  intro c begins
  obtain ⟨rest, whole⟩ : trimEnd text <+: text := List.rdropWhile_prefix isWhiteSpace text
  apply starts c
  rw [← whole, List.head?_append, Option.mem_def.mp begins]
  rfl

theorem framed_trim (text : List Char) : Framed (trim text) text where
  bare := ⟨trimEnd_bare_start _ (trimStart_bare_start text), trimEnd_bare_end _⟩
  around := by
    refine ⟨text.takeWhile isWhiteSpace, (trimStart text).rtakeWhile isWhiteSpace, ?_, ?_, ?_⟩
    · intro c member
      exact List.mem_takeWhile_imp member
    · intro c member
      exact List.mem_rtakeWhile_imp member
    · calc
        text = text.takeWhile isWhiteSpace ++ trimStart text := List.takeWhile_append_dropWhile.symm
        _ = text.takeWhile isWhiteSpace ++
            (trim text ++ (trimStart text).rtakeWhile isWhiteSpace) := by
          rw [show trim text ++ (trimStart text).rtakeWhile isWhiteSpace = trimStart text from
            List.rdropWhile_append_rtakeWhile]
        _ = text.takeWhile isWhiteSpace ++ trim text ++
            (trimStart text).rtakeWhile isWhiteSpace := (List.append_assoc ..).symm

theorem trimStart_of_bare_start (text : List Char)
    (starts : ∀ c ∈ text.head?, isWhiteSpace c = false) : trimStart text = text := by
  cases text with
  | nil => rfl
  | cons c cs =>
      have solid := starts c rfl
      exact List.dropWhile_cons_of_neg (by simp [solid])

theorem trimStart_blank_append (left text : List Char) (blank : Blank left) :
    trimStart (left ++ text) = trimStart text :=
  List.dropWhile_append_of_pos blank

theorem trimEnd_append_blank (text right : List Char)
    (ends : ∀ c ∈ text.getLast?, isWhiteSpace c = false) (blank : Blank right) :
    trimEnd (text ++ right) = text := by
  have blankReversed : Blank right.reverse := fun c member => blank c (List.mem_reverse.mp member)
  have starts : ∀ c ∈ text.reverse.head?, isWhiteSpace c = false := by
    rw [List.head?_reverse]
    exact ends
  calc
    trimEnd (text ++ right) = (trimStart (right.reverse ++ text.reverse)).reverse := by
      rw [← List.reverse_append]
      rfl
    _ = text.reverse.reverse := by
      rw [trimStart_blank_append _ _ blankReversed, trimStart_of_bare_start _ starts]
    _ = text := List.reverse_reverse text

theorem trim_of_framed (core text : List Char) (framed : Framed core text) : trim text = core := by
  obtain ⟨left, right, blankLeft, blankRight, rfl⟩ := framed.around
  rw [trim, List.append_assoc, trimStart_blank_append left _ blankLeft]
  cases core with
  | nil =>
      -- Nothing stops the trimming of the start, so the white space behind goes with that before.
      have gone : trimStart right = [] := List.dropWhile_eq_nil_iff.mpr blankRight
      rw [List.nil_append, gone]
      rfl
  | cons c cs =>
      rw [trimStart_of_bare_start (c :: cs ++ right) framed.bare.first,
        trimEnd_append_blank _ _ framed.bare.last blankRight]

theorem trim_eq_iff (text core : List Char) : trim text = core ↔ Framed core text := by
  constructor
  · rintro rfl
    exact framed_trim text
  · exact trim_of_framed core text

/-- What stands for a character in small letters. An ASCII character has one small form, and that of any
other has a character that is not ASCII, apart from the Kelvin sign. -/
inductive SmallForm : Char → List Char → Prop where
  | ascii (c : Char) (within : c.toNat < 128) : SmallForm c [c.toLower]
  | kelvin : SmallForm '\u212a' ['k']
  | other (c d : Char) (form : List Char) (beyond : 128 ≤ c.toNat) (member : d ∈ form)
      (foreign : 128 ≤ d.toNat) : SmallForm c form

/-- To set a text in small letters is to put a small form for each character; which one it is may depend on
the characters around it. -/
def LowerCase (lower : List Char → List Char) : Prop :=
  ∀ text, ∃ forms, List.Forall₂ SmallForm text forms ∧ lower text = forms.flatten

theorem toLower_of_not_ascii (c : Char) (beyond : 128 ≤ c.toNat) : c.toLower = c := by
  have notCapital : ¬ (c.val ≥ 'A'.val ∧ c.val ≤ 'Z'.val) := by
    intro capital
    have bound : c.toNat ≤ 90 := capital.2
    omega
  exact dif_neg notCapital

/-- A name without a letter that could be the small form of a character that is not ASCII. -/
def Plain (name : List Char) : Prop := ∀ c ∈ name, c.toNat < 128 ∧ c ≠ 'k'

theorem Plain.not_mem {name : List Char} (plain : Plain name) (c : Char) (beyond : 128 ≤ c.toNat) :
    c ∉ name := by
  intro member
  have within := (plain c member).1
  omega

theorem Plain.ne_map_toLower {name : List Char} (plain : Plain name) (c : Char)
    (beyond : 128 ≤ c.toNat) (text : List Char) : (c :: text).map Char.toLower ≠ name := by
  rintro rfl
  apply plain.not_mem c beyond
  rw [List.map_cons, toLower_of_not_ascii c beyond]
  exact List.mem_cons_self

/-- Whatever is put for the characters that are not ASCII, the same texts fold to a plain name. -/
theorem flatten_eq_iff_map_toLower (text : List Char) (forms : List (List Char)) (name : List Char)
    (small : List.Forall₂ SmallForm text forms) (plain : Plain name) :
    forms.flatten = name ↔ text.map Char.toLower = name := by
  induction small generalizing name with
  | nil => rfl
  | @cons c form text forms first rest ih =>
      cases first with
      | ascii _ within =>
          rw [List.flatten_cons, List.map_cons, List.singleton_append]
          cases name with
          | nil => simp
          | cons d name =>
              have plainRest : Plain name := fun e member => plain e (List.mem_cons_of_mem d member)
              rw [List.cons_eq_cons, List.cons_eq_cons, ih name plainRest]
      | kelvin =>
          apply iff_of_false
          · rintro rfl
            exact (plain 'k' (by simp)).2 rfl
          · exact plain.ne_map_toLower '\u212a' (by decide) text
      | other _ d _ beyond member foreign =>
          apply iff_of_false
          · rintro rfl
            exact plain.not_mem d foreign (by simp [member])
          · exact plain.ne_map_toLower c beyond text

theorem foldName_eq_iff (lower : List Char → List Char) (unicode : LowerCase lower)
    (text name : String) (plain : Plain name.toList) :
    foldName text = name ↔ ∃ core, Framed core text.toList ∧ lower core = name.toList := by
  have folds (core : List Char) :
      lower core = name.toList ↔ core.map Char.toLower = name.toList := by
    obtain ⟨forms, small, written⟩ := unicode core
    rw [written]
    exact flatten_eq_iff_map_toLower core forms name.toList small plain
  have trimmed : foldName text = name ↔ (trim text.toList).map Char.toLower = name.toList := by
    rw [foldName, ← String.toList_inj, String.toList_ofList]
  simp only [trimmed, folds, ← trim_eq_iff, exists_eq_left']

end ConventionLint.Text
