import ConventionLint.Json.Token
import ConventionLint.Json.Value
import ConventionLint.Proofs.Decimal.Natural

namespace ConventionLint.Json

def Numeral.ofNat (n : Nat) : Numeral := ⟨false, Decimal.ofNat n, [], none⟩

mutual

def Value.tokens : Value → List Token
  | .null => [.null]
  | .number n => [.number (.ofNat n)]
  | .string text => [.string (some text)]
  | .array [] => [.leftBracket, .rightBracket]
  | .array (item :: items) =>
    .leftBracket :: item.tokens ++ itemTokens items ++ [.rightBracket]
  | .object [] => [.leftBrace, .rightBrace]
  | .object ((name, value) :: fields) =>
    .leftBrace :: .string (some name) :: .colon :: value.tokens ++ fieldTokens fields ++
      [.rightBrace]

def itemTokens : List Value → List Token
  | [] => []
  | item :: items => .comma :: item.tokens ++ itemTokens items

def fieldTokens : List (String × Value) → List Token
  | [] => []
  | (name, value) :: fields =>
    .comma :: .string (some name) :: .colon :: value.tokens ++ fieldTokens fields

end

/-- The text cannot go on a number that stands before it. -/
def Delimited (cs : List Char) : Prop :=
  ∀ c ∈ cs.head?, c.isDigit = false ∧ c ≠ '.' ∧ c ≠ 'e' ∧ c ≠ 'E'

theorem delimited_cons (c : Char) (cs : List Char)
    (other : c.isDigit = false ∧ c ≠ '.' ∧ c ≠ 'e' ∧ c ≠ 'E') : Delimited (c :: cs) := by
  intro d head
  cases head
  exact other

namespace Numeral

theorem scanFraction_delimited (numeral : Numeral) (rest : List Char) (ends : Delimited rest) :
    numeral.scanFraction rest = .done numeral rest := by
  cases rest with
  | nil => rfl
  | cons c rest =>
      obtain ⟨_, point, small, large⟩ := ends c rfl
      unfold scanFraction
      split
      · next same => exact absurd (List.cons.inj same).1 point
      · simp only [scanTail, small, large, or_self, ↓reduceIte]

theorem takeWhile_digits (digits rest : List Char) (all : ∀ c ∈ digits, c.isDigit = true)
    (ends : Delimited rest) :
    (digits ++ rest).takeWhile Char.isDigit = digits ∧
      (digits ++ rest).dropWhile Char.isDigit = rest := by
  rw [List.takeWhile_append_of_pos all, List.dropWhile_append_of_pos all]
  cases rest with
  | nil => exact ⟨List.append_nil digits, rfl⟩
  | cons c rest =>
      have other := (ends c rfl).1
      rw [List.takeWhile_cons_of_neg (by simp [other]), List.dropWhile_cons_of_neg (by simp [other])]
      exact ⟨List.append_nil digits, rfl⟩

theorem scan_ofNat (n : Nat) (rest : List Char) (ends : Delimited rest) :
    scan (Decimal.ofNat n ++ rest) = .done (.ofNat n) rest := by
  have digits := Decimal.isDigit_ofNat n
  rcases Decimal.ofNat_eq_zero_or_leading n with zero | ⟨c, cs, written, leading⟩
  · rw [ofNat, zero]
    cases rest with
    | nil => rfl
    | cons d rest =>
        change scanWhole false ('0' :: d :: rest) = _
        rw [scanWhole, if_pos rfl]
        simp only [(ends d rfl).1, Bool.false_eq_true, ↓reduceIte]
        exact scanFraction_delimited _ _ ends
  · rw [written] at digits
    rw [ofNat, written]
    have first : c.isDigit = true := digits c List.mem_cons_self
    obtain ⟨taken, dropped⟩ := takeWhile_digits cs rest
      (fun d member => digits d (List.mem_cons_of_mem c member)) ends
    have unsigned : c ≠ '-' := by
      rintro rfl
      cases first
    have whole : scan (c :: cs ++ rest) = scanWhole false (c :: (cs ++ rest)) := by
      unfold scan
      split
      · next same => exact absurd (List.cons.inj same).1 unsigned
      · rfl
    rw [whole, scanWhole.eq_def]
    simp only [leading, first, ↓reduceIte, taken, dropped]
    exact scanFraction_delimited _ _ ends

end Numeral

/-- The part stands for one character, whatever follows it. -/
def Part.StandsFor (part : Part) (c : Char) : Prop :=
  ∀ cut parts, joinParts cut (part :: parts) = (joinParts cut parts).map (c :: ·)

theorem standsFor_char (c : Char) : (Part.char c).StandsFor c := by
  intro cut parts
  rw [joinParts]

theorem standsFor_code (c : Char) (control : c.toNat < 0x20) :
    (Part.code c.toNat).StandsFor c := by
  intro cut parts
  have lead : isLead c.toNat = false := by
    simp only [isLead, Bool.and_eq_false_iff, decide_eq_false_iff_not]
    omega
  have trail : isTrail c.toNat = false := by
    simp only [isTrail, Bool.and_eq_false_iff, decide_eq_false_iff_not]
    omega
  rw [joinParts.eq_def]
  simp only [lead, trail, Bool.false_eq_true, ↓reduceIte, Char.ofNat_toNat]

theorem hexValue_hexDigit (d : Nat) (small : d < 16) : hexValue? (Text.hexDigit d) = some d := by
  have all : ∀ d < 16, hexValue? (Text.hexDigit d) = some d := by decide
  exact all d small

theorem hex4_control (n : Nat) (control : n < 0x20) :
    hex4? '0' '0' (Text.hexDigit (n / 16)) (Text.hexDigit (n % 16)) = some n := by
  have zero : hexValue? '0' = some 0 := by decide
  rw [hex4?, zero, hexValue_hexDigit (n / 16) (by omega), hexValue_hexDigit (n % 16) (by omega)]
  simp only [Option.some.injEq]
  omega

theorem scanString_simple (letter c : Char) (known : simpleEscape? letter = some c)
    (cs : List Char) :
    scanString ('\\' :: letter :: cs) = (.char c :: (scanString cs).1, (scanString cs).2) := by
  have simple : letter ≠ 'u' := by
    rintro rfl
    cases known
  rw [scanString]
  · rw [known]
  all_goals simp [simple]

theorem exists_part (c : Char) : ∃ part : Part, part.StandsFor c ∧ ∀ cs,
    scanString (escapeChar c ++ cs) = (part :: (scanString cs).1, (scanString cs).2) := by
  have short : ∀ letter, simpleEscape? letter = some c → ∃ part : Part, part.StandsFor c ∧ ∀ cs,
      scanString (['\\', letter] ++ cs) = (part :: (scanString cs).1, (scanString cs).2) :=
    fun letter known => ⟨.char c, standsFor_char c, scanString_simple letter c known⟩
  unfold escapeChar
  split
  · next same => exact short '"' (by rw [same]; rfl)
  split
  · next same => exact short '\\' (by rw [same]; rfl)
  split
  · next same => exact short 'n' (by rw [same]; rfl)
  split
  · next same => exact short 'r' (by rw [same]; rfl)
  split
  · next same => exact short 't' (by rw [same]; rfl)
  split
  · next same => exact short 'b' (by rw [← Char.ofNat_toNat c, same]; rfl)
  split
  · next same => exact short 'f' (by rw [← Char.ofNat_toNat c, same]; rfl)
  split
  · next control =>
      refine ⟨.code c.toNat, standsFor_code c control, fun cs => ?_⟩
      simp only [List.cons_append, List.nil_append, scanString, hex4_control c.toNat control]
  · next quote backslash _ _ _ _ _ printable =>
      refine ⟨.char c, standsFor_char c, fun cs => ?_⟩
      rw [List.cons_append, List.nil_append, scanString]
      · rw [if_neg printable]
      all_goals simp [quote, backslash]

theorem scanString_escaped (text rest : List Char) :
    ∃ parts, scanString (text.flatMap escapeChar ++ '"' :: rest) = (parts, .closed rest) ∧
      joinParts .malformed parts = .ok text := by
  induction text with
  | nil => exact ⟨[], by simp [scanString], by rw [joinParts]⟩
  | cons c text ih =>
      obtain ⟨parts, scanned, joined⟩ := ih
      obtain ⟨part, standsFor, first⟩ := exists_part c
      refine ⟨part :: parts, ?_, ?_⟩
      · rw [List.flatMap_cons, List.append_assoc, first, scanned]
      · rw [standsFor, joined]
        rfl

theorem lex_blank (c : Char) (cs : List Char) (blank : isBlank c = true) :
    lex (c :: cs) = lex cs := by
  rw [lex, if_pos blank]

theorem lex_mark (c : Char) (cs : List Char) (token : Token) (solid : isBlank c = false)
    (marked : mark? c = some token) : lex (c :: cs) = token :: lex cs := by
  rw [lex, if_neg (by simp [solid]), marked]

theorem lex_newLine (level : Nat) (rest : List Char) :
    lex (newLine level ++ rest) = lex rest := by
  rw [newLine, List.cons_append, lex_blank _ _ rfl]
  induction 2 * level with
  | zero => rfl
  | succ count ih => rw [List.replicate_succ, List.cons_append, lex_blank _ _ rfl, ih]

theorem lex_quoted (text : String) (rest : List Char) :
    lex (quoted text ++ rest) = .string (some text) :: lex rest := by
  obtain ⟨parts, scanned, joined⟩ := scanString_escaped text.toList rest
  have shape : quoted text ++ rest = '"' :: (text.toList.flatMap escapeChar ++ '"' :: rest) := by
    simp [quoted]
  rw [shape, lex, if_neg (by decide)]
  simp only [show mark? '"' = none from rfl, show word? '"' = none from rfl, ↓reduceIte]
  split
  · next parts' rest' step =>
      rw [scanned] at step
      cases step
      rw [joined]
      simp [Except.toOption]
  · next parts' defect step =>
      rw [scanned] at step
      cases step

theorem lex_null (rest : List Char) :
    lex ('n' :: 'u' :: 'l' :: 'l' :: rest) = .null :: lex rest := by
  rw [lex, if_neg (by decide)]
  have scanned : scanWord ['u', 'l', 'l'] ('u' :: 'l' :: 'l' :: rest) = .ok rest := by
    simp [scanWord]
  simp only [show mark? 'n' = none from rfl,
    show word? 'n' = some (['u', 'l', 'l'], .null) from rfl]
  split
  · next rest' step =>
      rw [scanned] at step
      cases step
      rfl
  · next defect step =>
      rw [scanned] at step
      cases step

theorem digit_only (c : Char) (digit : c.isDigit = true) :
    isBlank c = false ∧ mark? c = none ∧ word? c = none ∧ c ≠ '"' := by
  have other : ∀ d : Char, d.isDigit = false → c ≠ d := by
    rintro d different rfl
    rw [digit] at different
    cases different
  refine ⟨?_, ?_, ?_, other '"' (by decide)⟩
  · simp [isBlank, other ' ' (by decide), other '\n' (by decide), other '\t' (by decide),
      other '\r' (by decide)]
  · simp [mark?, other '\x7b' (by decide), other '\x7d' (by decide), other '[' (by decide),
      other ']' (by decide), other ':' (by decide), other ',' (by decide)]
  · simp [word?, other 'n' (by decide), other 't' (by decide), other 'f' (by decide)]

theorem lex_ofNat (n : Nat) (rest : List Char) (ends : Delimited rest) :
    lex (Decimal.ofNat n ++ rest) = .number (.ofNat n) :: lex rest := by
  have scanned := Numeral.scan_ofNat n rest ends
  have digits := Decimal.isDigit_ofNat n
  cases written : Decimal.ofNat n with
  | nil =>
      rcases Decimal.ofNat_eq_zero_or_leading n with zero | ⟨c, cs, leading, _⟩
      · rw [written] at zero
        cases zero
      · rw [written] at leading
        cases leading
  | cons c cs =>
      rw [written] at scanned digits
      have first := digits c List.mem_cons_self
      obtain ⟨solid, unmarked, unworded, unquoted⟩ := digit_only c first
      rw [List.cons_append, lex, if_neg (by simp [solid])]
      simp only [unmarked, unworded, unquoted, ↓reduceIte, first, or_true]
      split
      · next numeral rest' step =>
          rw [List.cons_append] at scanned
          rw [scanned] at step
          cases step
          rfl
      · next atEnd step =>
          rw [List.cons_append] at scanned
          rw [scanned] at step
          cases step

theorem delimited_newLine (level : Nat) (rest : List Char) :
    Delimited (newLine level ++ rest) := delimited_cons _ _ (by decide)

theorem delimited_writeItems (level : Nat) (items : List Value) (rest : List Char)
    (ends : Delimited rest) : Delimited (writeItems level items ++ rest) := by
  cases items with
  | nil =>
      rw [writeItems]
      exact ends
  | cons item items =>
      rw [writeItems]
      exact delimited_cons _ _ (by decide)

theorem delimited_writeFields (level : Nat) (fields : List (String × Value)) (rest : List Char)
    (ends : Delimited rest) : Delimited (writeFields level fields ++ rest) := by
  cases fields with
  | nil =>
      rw [writeFields]
      exact ends
  | cons field fields =>
      obtain ⟨name, value⟩ := field
      rw [writeFields]
      exact delimited_cons _ _ (by decide)

mutual

theorem lex_write (value : Value) (level : Nat) (rest : List Char) (ends : Delimited rest) :
    lex (value.write level ++ rest) = value.tokens ++ lex rest := by
  match value with
  | .null =>
      rw [Value.write, Value.tokens]
      exact lex_null rest
  | .number n =>
      rw [Value.write, Value.tokens]
      exact lex_ofNat n rest ends
  | .string text =>
      rw [Value.write, Value.tokens]
      exact lex_quoted text rest
  | .array [] =>
      rw [Value.write, Value.tokens, List.cons_append, List.cons_append, List.nil_append,
        lex_mark '[' _ _ rfl rfl, lex_mark ']' _ _ rfl rfl]
      rfl
  | .array (item :: items) =>
      have close : Delimited (newLine level ++ ']' :: rest) := delimited_newLine level _
      rw [Value.write, Value.tokens]
      simp only [List.cons_append, List.append_assoc, List.nil_append]
      rw [lex_mark '[' _ _ rfl rfl, lex_newLine, lex_write item _ _
        (delimited_writeItems _ items _ close), lex_writeItems items _ _ close, lex_newLine,
        lex_mark ']' _ _ rfl rfl]
  | .object [] =>
      rw [Value.write, Value.tokens, List.cons_append, List.cons_append, List.nil_append,
        lex_mark '\x7b' _ _ rfl rfl, lex_mark '\x7d' _ _ rfl rfl]
      rfl
  | .object ((name, value) :: fields) =>
      have close : Delimited (newLine level ++ '\x7d' :: rest) := delimited_newLine level _
      rw [Value.write, Value.tokens]
      simp only [List.cons_append, List.append_assoc, List.nil_append]
      rw [lex_mark '\x7b' _ _ rfl rfl, lex_newLine, lex_quoted, lex_mark ':' _ _ rfl rfl,
        lex_blank ' ' _ rfl, lex_write value _ _ (delimited_writeFields _ fields _ close),
        lex_writeFields fields _ _ close, lex_newLine, lex_mark '\x7d' _ _ rfl rfl]

theorem lex_writeItems (items : List Value) (level : Nat) (rest : List Char)
    (ends : Delimited rest) :
    lex (writeItems level items ++ rest) = itemTokens items ++ lex rest := by
  match items with
  | [] =>
      rw [writeItems, itemTokens]
      rfl
  | item :: items =>
      rw [writeItems, itemTokens]
      simp only [List.cons_append, List.append_assoc]
      rw [lex_mark ',' _ _ rfl rfl, lex_newLine,
        lex_write item _ _ (delimited_writeItems _ items _ ends), lex_writeItems items _ _ ends]

theorem lex_writeFields (fields : List (String × Value)) (level : Nat) (rest : List Char)
    (ends : Delimited rest) :
    lex (writeFields level fields ++ rest) = fieldTokens fields ++ lex rest := by
  match fields with
  | [] =>
      rw [writeFields, fieldTokens]
      rfl
  | (name, value) :: fields =>
      rw [writeFields, fieldTokens]
      simp only [List.cons_append, List.append_assoc]
      rw [lex_mark ',' _ _ rfl rfl, lex_newLine, lex_quoted, lex_mark ':' _ _ rfl rfl,
        lex_blank ' ' _ rfl, lex_write value _ _ (delimited_writeFields _ fields _ ends),
        lex_writeFields fields _ _ ends]

end

theorem lex_pretty (value : Value) : lex value.pretty.toList = value.tokens := by
  have whole := lex_write value 0 [] (by intro c head; cases head)
  rw [List.append_nil, lex, List.append_nil] at whole
  rw [Value.pretty, String.toList_ofList]
  exact whole

end ConventionLint.Json
