import ConventionLint.Proofs.Decimal.Natural
import ConventionLint.Proofs.Report.Underline

/-!
Colours add control sequences to a report and nothing else.

A control sequence that sets a style is an escape character, a bracket, numbers with separators between
them, and a final letter. To remove all such sequences from a text, it is enough to go through it once from
left to right. A text without escape characters stays as it is, and the sequences that are put around a
fragment disappear with their numbers; so a report whose fragments are free of escape characters is, once
the sequences are removed, the report that is written without colours.
-/
namespace ConventionLint

def Report.EscapeFree (text : String) : Prop := escape ∉ text.toList

instance (text : String) : Decidable (Report.EscapeFree text) :=
  inferInstanceAs (Decidable (Report.escape ∉ text.toList))

structure Diagnostic.EscapeFree (d : Diagnostic) : Prop where
  id : Report.EscapeFree d.id
  file : Report.EscapeFree d.file
  message : Report.EscapeFree d.message

structure Descriptor.EscapeFree (descriptor : Descriptor) : Prop where
  id : Report.EscapeFree descriptor.id
  category : Report.EscapeFree descriptor.category
  title : Report.EscapeFree descriptor.title

namespace Report

def isParameter (c : Char) : Bool := c.isDigit || c == ';'

def afterControl? : List Char → Option (List Char)
  | '\x1b' :: '[' :: cs =>
    match cs.dropWhile isParameter with
    | 'm' :: rest => some rest
    | _ => none
  | _ => none

theorem length_lt_of_afterControl {text rest : List Char} (found : afterControl? text = some rest) :
    rest.length < text.length := by
  unfold afterControl? at found
  split at found
  · next cs =>
      have shorter : (cs.dropWhile isParameter).length ≤ cs.length :=
        (List.dropWhile_suffix isParameter).length_le
      split at found
      · next ends =>
          cases found
          rw [ends] at shorter
          simp only [List.length_cons] at shorter ⊢
          omega
      · cases found
  · cases found

def withoutControls (text : List Char) : List Char :=
  match text with
  | [] => []
  | c :: cs =>
    match _found : afterControl? (c :: cs) with
    | some rest => withoutControls rest
    | none => c :: withoutControls cs
termination_by text.length
decreasing_by
  · exact length_lt_of_afterControl _found
  · exact Nat.lt_succ_self _

def uncolored (text : String) : String := String.ofList (withoutControls text.toList)

theorem afterControl_of_ne (c : Char) (cs : List Char) (other : c ≠ escape) :
    afterControl? (c :: cs) = none := by
  unfold afterControl?
  split
  · next same =>
      cases same
      exact absurd rfl other
  · rfl

theorem withoutControls_append (text rest : List Char) (free : escape ∉ text) :
    withoutControls (text ++ rest) = text ++ withoutControls rest := by
  induction text with
  | nil => rfl
  | cons c text ih =>
      have first : c ≠ escape := fun same => free (same ▸ List.mem_cons_self)
      have later : escape ∉ text := fun member => free (List.mem_cons_of_mem c member)
      rw [List.cons_append, withoutControls, ih later]
      split
      · next found => cases (afterControl_of_ne c _ first).symm.trans found
      · rfl

theorem withoutControls_control (code rest : List Char)
    (parameters : ∀ c ∈ code, isParameter c = true) :
    withoutControls (control code ++ rest) = withoutControls rest := by
  have skipped : (code ++ 'm' :: rest).dropWhile isParameter = 'm' :: rest := by
    rw [List.dropWhile_append_of_pos parameters]
    rfl
  have shape : control code ++ rest = '\x1b' :: '[' :: (code ++ 'm' :: rest) := by
    simp [control, escape]
  have after : afterControl? ('\x1b' :: '[' :: (code ++ 'm' :: rest)) = some rest := by
    simp only [afterControl?, skipped]
  rw [shape, withoutControls]
  split
  · next found =>
      cases after.symm.trans found
      rfl
  · next missing => cases after.symm.trans missing

theorem isParameter_code (style : Style) : ∀ c ∈ style.code, isParameter c = true := by
  cases style <;> simp [Style.code, isParameter]

/-- A fragment without escape characters has no reset inside. -/
theorem restyle_of_free (code text : List Char) (free : escape ∉ text) : restyle code text = text := by
  fun_induction restyle code text with
  | case1 cs ih => exact absurd List.mem_cons_self free
  | case2 c cs other ih => rw [ih fun member => free (List.mem_cons_of_mem c member)]
  | case3 => rfl

namespace Styled

def EscapeFree (text : Styled) : Prop := ∀ fragment ∈ text, escape ∉ fragment.text

theorem EscapeFree.append {front back : Styled} (first : front.EscapeFree) (second : back.EscapeFree) :
    EscapeFree (front ++ back) := by
  intro fragment member
  rcases List.mem_append.mp member with early | late
  · exact first fragment early
  · exact second fragment late

theorem withoutControls_fragment (fragment : Fragment) (rest : List Char)
    (free : escape ∉ fragment.text) :
    withoutControls (fragment.colored ++ rest) = fragment.text ++ withoutControls rest := by
  obtain ⟨text, style⟩ := fragment
  cases style with
  | none => exact withoutControls_append text rest free
  | some style =>
      calc
        withoutControls (control style.code ++ restyle style.code text ++ reset ++ rest)
        _ = withoutControls (control style.code ++ (text ++ (reset ++ rest))) := by
          rw [restyle_of_free _ _ free, List.append_assoc, List.append_assoc]
        _ = withoutControls (text ++ (reset ++ rest)) :=
          withoutControls_control _ _ (isParameter_code style)
        _ = text ++ withoutControls (reset ++ rest) := withoutControls_append _ _ free
        _ = text ++ withoutControls rest := by
          rw [reset, withoutControls_control _ _ (by simp [isParameter])]

theorem withoutControls_colored (text : Styled) (free : text.EscapeFree) :
    withoutControls text.colored = text.plain := by
  induction text with
  | nil => simp [colored, plain, withoutControls]
  | cons fragment text ih =>
      obtain ⟨first, later⟩ := List.forall_mem_cons.mp free
      rw [colored, List.flatMap_cons, withoutControls_fragment fragment _ first, plain,
        List.flatMap_cons]
      exact congrArg _ (ih later)

theorem write_append (color : Bool) (front back : Styled) :
    write color (front ++ back) = front.write color ++ back.write color := by
  apply String.toList_injective
  cases color with
  | false => simp [write, plain]
  | true => simp [write, colored]

theorem write_plain (color : Bool) (text : String) : write color [⟨text.toList, none⟩] = text := by
  apply String.toList_injective
  cases color with
  | false => simp [write, plain]
  | true => simp [write, colored, Fragment.colored]

theorem uncolored_write (text : Styled) (free : text.EscapeFree) :
    uncolored (text.write true) = text.write false := by
  simp only [uncolored, write, ↓reduceIte, Bool.false_eq_true, String.toList_ofList,
    withoutControls_colored text free]

end Styled

theorem escape_ne : escape ≠ ' ' ∧ escape ≠ '\n' ∧ escape ≠ ':' ∧ escape ≠ '-' := by decide

theorem escape_not_mem_ofNat (n : Nat) : escape ∉ Decimal.ofNat n := by
  intro member
  cases Decimal.isDigit_ofNat n escape member

theorem escape_not_mem_underline (line : List Char) (first last : Nat) :
    escape ∉ underline line first last := by
  rw [underline_eq]
  simp [List.mem_replicate, escape]

theorem Sources.exists_text_of_get (sources : Sources) (texts : List (String × String)) (file : String)
    (map : LineMap) (found : (sources.addAll texts).get? file = some map) :
    sources.get? file = some map ∨ ∃ entry ∈ texts, map = LineMap.ofText entry.2 := by
  induction texts generalizing sources with
  | nil => exact .inl found
  | cons entry texts ih =>
      rcases ih (sources.add entry.1 entry.2) found with here | ⟨other, later, same⟩
      · rw [get_add] at here
        split at here
        · exact .inr ⟨entry, List.mem_cons_self, (Option.some.inj here).symm⟩
        · exact .inl here
      · exact .inr ⟨other, List.mem_cons_of_mem entry later, same⟩

theorem mem_of_lineText (text : String) (i : Nat) (line : String)
    (shown : (LineMap.ofText text).lineText i = some line) : ∀ c ∈ line.toList, c ∈ text.toList := by
  obtain ⟨found, present, rfl⟩ := Option.map_eq_some_iff.mp shown
  intro c member
  rw [String.toList_ofList] at member
  rw [← Line.contents_split text.toList]
  exact List.mem_flatMap.mpr ⟨found, List.mem_of_getElem? present, List.mem_append_left _ member⟩

theorem snippet_escapeFree (text : String) (d : Diagnostic) (free : EscapeFree text) :
    (snippet (LineMap.ofText text) d).EscapeFree := by
  unfold snippet
  split
  · intro fragment member
    cases member
  · dsimp only
    split
    · intro fragment member
      cases member
    · next line shown =>
        have clean : escape ∉ line.toList := fun member =>
          free (mem_of_lineText text _ line shown escape member)
        intro fragment member
        simp only [List.mem_cons, List.not_mem_nil, or_false] at member
        rcases member with rfl | rfl
        · simp [padLeft, escape_not_mem_ofNat, clean, List.mem_replicate, escape_ne]
        · exact escape_not_mem_underline _ _ _

theorem escape_not_mem_label (severity : Severity) : escape ∉ severity.label.toList := by
  cases severity <;> decide

theorem escape_not_mem_place (sources : Sources) (d : Diagnostic) (free : EscapeFree d.file) :
    escape ∉ place sources d := by
  unfold place
  split
  · simp [escape_not_mem_ofNat, escape_ne, show escape ∉ d.file.toList from free]
  · split
    · decide
    · exact free

section Sources

variable (texts : List (String × String)) (plain : ∀ entry ∈ texts, EscapeFree entry.2)

include plain

theorem diagnostic_escapeFree (d : Diagnostic) (free : d.EscapeFree) :
    (diagnostic (Sources.empty.addAll texts) d).EscapeFree := by
  apply Styled.EscapeFree.append
  · have id : escape ∉ d.id.toList := free.id
    have message : escape ∉ d.message.toList := free.message
    intro fragment member
    simp only [List.mem_cons, List.not_mem_nil, or_false] at member
    rcases member with rfl | rfl | rfl | rfl | rfl
    · simp [escape_not_mem_place _ d free.file, escape_ne]
    · exact escape_not_mem_label d.severity
    · simp [escape_ne]
    · exact id
    · simp [message, escape_ne]
  · split
    · next map found =>
        rcases Sources.exists_text_of_get _ texts d.file map found with none | ⟨entry, listed, rfl⟩
        · cases none
        · exact snippet_escapeFree entry.2 d (plain entry listed)
    · intro fragment member
      cases member

theorem diagnostics_escapeFree (shown : List Diagnostic) (free : ∀ d ∈ shown, d.EscapeFree) :
    (diagnostics (Sources.empty.addAll texts) shown).EscapeFree := by
  fun_induction diagnostics (Sources.empty.addAll texts) shown with
  | case1 =>
      intro fragment member
      cases member
  | case2 d => exact diagnostic_escapeFree texts plain d (free d List.mem_cons_self)
  | case3 d next rest ih =>
      obtain ⟨first, later⟩ := List.forall_mem_cons.mp free
      apply (diagnostic_escapeFree texts plain d first).append
      exact List.forall_mem_cons.mpr ⟨by simp [escape_ne], ih later⟩

end Sources

theorem rule_escapeFree (descriptor : Descriptor) (free : descriptor.EscapeFree) :
    (rule descriptor).EscapeFree := by
  have id : escape ∉ descriptor.id.toList := free.id
  have category : escape ∉ descriptor.category.toList := free.category
  have title : escape ∉ descriptor.title.toList := free.title
  have severity : escape ∉
      (if descriptor.enabledByDefault then descriptor.defaultSeverity.label else "off").toList := by
    split
    · exact escape_not_mem_label _
    · decide
  intro fragment member
  simp only [rule, List.mem_cons, List.not_mem_nil, or_false] at member
  rcases member with rfl | rfl
  · exact id
  · simp [padRight, severity, category, title, List.mem_replicate, escape_ne]

theorem rules_escapeFree (descriptors : List Descriptor)
    (free : ∀ descriptor ∈ descriptors, descriptor.EscapeFree) :
    (rules descriptors).EscapeFree := by
  intro fragment member
  obtain ⟨descriptor, listed, inside⟩ := List.mem_flatMap.mp member
  exact rule_escapeFree descriptor (free descriptor listed) fragment inside

end Report

end ConventionLint
