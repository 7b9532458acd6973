import ConventionLint.Proofs.Stages
import ConventionLint.Proofs.Text.Folding
import ConventionLint.RuleSeverity
import Mathlib.Tactic.SplitIfs

namespace ConventionLint

namespace RuleSeverity

def names : RuleSeverity → List String
  | byDefault => ["default"]
  | error => ["error"]
  | warning => ["warning", "warn"]
  | info => ["info", "suggestion"]
  | hidden => ["hidden", "silent"]
  | off => ["none", "off"]

def NamedBy (lower : List Char → List Char) (severity : RuleSeverity) (text : String) : Prop :=
  ∃ core, Text.Framed core text.toList ∧ ∃ name ∈ severity.names, lower core = name.toList

theorem label_mem_names (severity : RuleSeverity) : severity.label ∈ severity.names := by
  cases severity <;> decide

theorem ofName_eq_some_iff (name : String) (severity : RuleSeverity) :
    ofName? name = some severity ↔ name ∈ severity.names := by
  constructor
  · intro found
    unfold ofName? at found
    split_ifs at found with warn suggestion silent off
    · cases found
      simp [names, warn]
    · cases found
      simp [names, suggestion]
    · cases found
      simp [names, silent]
    · cases found
      simp [names, off]
    · have label : severity.label = name := by simpa using List.find?_some found
      exact label ▸ severity.label_mem_names
  · intro listed
    have known : ∀ name ∈ severity.names, ofName? name = some severity := by
      cases severity <;> decide
    exact known name listed

theorem plain_of_mem_names (severity : RuleSeverity) (name : String) (listed : name ∈ severity.names) :
    Text.Plain name.toList := by
  have letters : ∀ name ∈ severity.names,
      (name.toList.all fun c => decide (c.toNat < 128 ∧ c ≠ 'k')) = true := by
    cases severity <;> decide
  intro c member
  exact of_decide_eq_true (List.all_eq_true.mp (letters name listed) c member)

theorem parse_eq_ok (text : String) (severity : RuleSeverity) :
    parse text = .ok severity ↔ Text.foldName text ∈ severity.names := by
  rw [← ofName_eq_some_iff]
  unfold parse
  cases ofName? (Text.foldName text) with
  | none => simp
  | some found => simp

theorem parse_eq_ok_iff_namedBy (lower : List Char → List Char) (unicode : Text.LowerCase lower)
    (text : String) (severity : RuleSeverity) :
    parse text = .ok severity ↔ severity.NamedBy lower text := by
  rw [parse_eq_ok]
  constructor
  · intro listed
    have plain := severity.plain_of_mem_names _ listed
    obtain ⟨core, framed, folded⟩ := (Text.foldName_eq_iff lower unicode text _ plain).mp rfl
    exact ⟨core, framed, Text.foldName text, listed, folded⟩
  · rintro ⟨core, framed, name, listed, folded⟩
    have plain := severity.plain_of_mem_names name listed
    rw [(Text.foldName_eq_iff lower unicode text name plain).mpr ⟨core, framed, folded⟩]
    exact listed

theorem parse_label (severity : RuleSeverity) : parse severity.label = .ok severity := by
  cases severity <;> decide +kernel

end RuleSeverity

namespace RuleOverride

/-- A text says something of a rule: the rule stands before the first equals sign, the severity after it. -/
def WrittenAs (rule : RuleOverride) (value : String) : Prop :=
  ∃ before after, value.toList = before ++ '=' :: after ∧ '=' ∉ before ∧
    Text.Framed rule.id.toList before ∧ rule.id ≠ "" ∧
    RuleSeverity.parse (String.ofList after) = .ok rule.severity

structure Canonical (rule : RuleOverride) : Prop where
  nonempty : rule.id ≠ ""
  bare : Text.Bare rule.id.toList
  undivided : '=' ∉ rule.id.toList

def text (rule : RuleOverride) : String := rule.id ++ "=" ++ rule.severity.label

theorem parse_of_undivided (value : String) (undivided : '=' ∉ value.toList) :
    parse value = .error (.noSeparator value) := by
  have nothing : value.toList.dropWhile (· != '=') = [] := by
    apply List.dropWhile_eq_nil_iff.mpr
    intro c member
    simpa using ne_of_mem_of_not_mem member undivided
  rw [parse, nothing]

theorem parse_of_divided (value : String) (before after : List Char)
    (shape : value.toList = before ++ '=' :: after) (first : '=' ∉ before) :
    parse value =
      if (Text.trim before).isEmpty then .error (.noRuleId value)
      else (RuleSeverity.parse (String.ofList after)).map fun severity =>
        ⟨String.ofList (Text.trim before), severity⟩ := by
  have others : ∀ c ∈ before, (c != '=') = true := by
    intro c member
    simpa using ne_of_mem_of_not_mem member first
  have front : value.toList.takeWhile (· != '=') = before := by
    rw [shape, List.takeWhile_append_of_pos others]
    simp
  have back : value.toList.dropWhile (· != '=') = '=' :: after := by
    rw [shape, List.dropWhile_append_of_pos others]
    simp
  simp only [parse, front, back]

example : parse "A=B=off" = .error (.badSeverity "B=off") := by decide +kernel

theorem parse_eq_ok_iff_writtenAs (value : String) (rule : RuleOverride) :
    parse value = .ok rule ↔ rule.WrittenAs value := by
  constructor
  · intro parsed
    by_cases divided : '=' ∈ value.toList
    · obtain ⟨before, after, shape, first⟩ := List.eq_append_cons_of_mem divided
      rw [parse_of_divided value before after shape first] at parsed
      split at parsed
      · cases parsed
      · next nonempty =>
          obtain ⟨severity, read, rfl⟩ := (map_eq_ok_iff _ _ _).mp parsed
          refine ⟨before, after, shape, first, ?_, ?_, read⟩
          · rw [String.toList_ofList]
            exact Text.framed_trim before
          · simpa using nonempty
    · rw [parse_of_undivided value divided] at parsed
      cases parsed
  · rintro ⟨before, after, shape, first, framed, nonempty, read⟩
    have trimmed : Text.trim before = rule.id.toList := Text.trim_of_framed _ _ framed
    rw [parse_of_divided value before after shape first, trimmed, if_neg (by simpa using nonempty), read]
    simp [Except.map]

theorem WrittenAs.canonical {rule : RuleOverride} {value : String} (written : rule.WrittenAs value) :
    rule.Canonical := by
  obtain ⟨before, after, shape, first, framed, nonempty, read⟩ := written
  refine ⟨nonempty, framed.bare, ?_⟩
  intro member
  obtain ⟨left, right, _, _, rfl⟩ := framed.around
  exact first (by simp [member])

theorem Canonical.parse_text {rule : RuleOverride} (canonical : rule.Canonical) :
    parse rule.text = .ok rule := by
  apply (parse_eq_ok_iff_writtenAs rule.text rule).mpr
  refine ⟨rule.id.toList, rule.severity.label.toList, ?_, canonical.undivided, ?_,
    canonical.nonempty, ?_⟩
  · simp [text]
  · exact ⟨canonical.bare, [], [], nofun, nofun, by simp⟩
  · rw [String.ofList_toList, RuleSeverity.parse_label]

/-- The grammar of statements. A text is read exactly if it has an equals sign, a rule before the first one
and a severity after it, and the severity exactly if it is one of the ten names in letters of either case.
The rule that is read is not empty, has no white space around it and no equals sign in it; and the short form
of what was read is read as the same. -/
theorem parse_follows_grammar (lower : List Char → List Char) (unicode : Text.LowerCase lower)
    (value : String) (rule : RuleOverride) :
    (parse value = .ok rule ↔ rule.WrittenAs value) ∧
    (∀ text severity, RuleSeverity.parse text = .ok severity ↔ severity.NamedBy lower text) ∧
    (parse value = .ok rule → rule.Canonical ∧ parse rule.text = .ok rule) := by
  refine ⟨parse_eq_ok_iff_writtenAs value rule,
    RuleSeverity.parse_eq_ok_iff_namedBy lower unicode, ?_⟩
  intro parsed
  have canonical : rule.Canonical := ((parse_eq_ok_iff_writtenAs value rule).mp parsed).canonical
  exact ⟨canonical, canonical.parse_text⟩

def fewForms : Char → List Char
  | '\u212a' => ['k']
  | '\u0130' => ['i', '\u0307']
  | 'É' => ['é']
  | c => [c.toLower]

def lowerFew (text : List Char) : List Char := text.flatMap fewForms

theorem lowerCase_lowerFew : Text.LowerCase lowerFew := by
  intro text
  refine ⟨text.map fewForms, ?_, List.flatMap_def ..⟩
  apply List.forall₂_map_right_iff.mpr
  apply List.forall₂_same.mpr
  intro c _
  unfold fewForms
  split
  · exact .kelvin
  · exact .other _ '\u0307' _ (by decide) (by decide) (by decide)
  · exact .other _ 'é' _ (by decide) (by decide) (by decide)
  · by_cases within : c.toNat < 128
    · exact .ascii c within
    · have beyond : 128 ≤ c.toNat := Nat.le_of_not_lt within
      exact .other c c _ beyond (by simp [Text.toLower_of_not_ascii c beyond]) beyond

def spaced : String := "\u3000IBC 1000\t=\u2028SiLeNt "

theorem spaced_follows_grammar :
    Text.LowerCase lowerFew ∧
    parse spaced = .ok ⟨"IBC 1000", .hidden⟩ ∧ WrittenAs ⟨"IBC 1000", .hidden⟩ spaced ∧
    RuleSeverity.NamedBy lowerFew .hidden "\u2028SiLeNt " ∧
    Canonical ⟨"IBC 1000", .hidden⟩ ∧ parse "IBC 1000=hidden" = .ok ⟨"IBC 1000", .hidden⟩ := by
  have parsed : parse spaced = .ok ⟨"IBC 1000", .hidden⟩ := by decide +kernel
  have named : RuleSeverity.parse "\u2028SiLeNt " = .ok .hidden := by decide +kernel
  obtain ⟨written, severity, short⟩ := parse_follows_grammar _ lowerCase_lowerFew spaced
    ⟨"IBC 1000", .hidden⟩
  exact ⟨lowerCase_lowerFew, parsed, written.mp parsed, (severity _ _).mp named, (short parsed).1,
    (short parsed).2⟩

end RuleOverride

end ConventionLint
