import ConventionLint.Json.Numeral
import ConventionLint.Text.ByteSize

namespace ConventionLint.Json

/-- A token. A string has no text if one of its escapes is half of a pair: that is a defect only where
the text is needed. A string that is not closed has one defect where its text is needed and one where
it is not. -/
inductive Token where
  | leftBrace
  | rightBrace
  | leftBracket
  | rightBracket
  | colon
  | comma
  | null
  | bool (value : Bool)
  | number (numeral : Numeral)
  | string (text : Option String)
  | brokenNumber (atEnd : Bool)
  | brokenString (used ignored : Defect)
  | brokenWord (defect : Defect)
  | stray
  deriving DecidableEq, Repr

def isBlank (c : Char) : Bool := c == ' ' || c == '\n' || c == '\t' || c == '\r'

def hexValue? (c : Char) : Option Nat :=
  if c.isDigit then some (c.toNat - 0x30)
  else if 'a' ≤ c ∧ c ≤ 'f' then some (c.toNat - 0x57)
  else if 'A' ≤ c ∧ c ≤ 'F' then some (c.toNat - 0x37)
  else none

def hex4? (a b c d : Char) : Option Nat :=
  match hexValue? a, hexValue? b, hexValue? c, hexValue? d with
  | some a, some b, some c, some d => some (4096 * a + 256 * b + 16 * c + d)
  | _, _, _, _ => none

def isLead (n : Nat) : Bool := decide (0xD800 ≤ n) && decide (n ≤ 0xDBFF)

def isTrail (n : Nat) : Bool := decide (0xDC00 ≤ n) && decide (n ≤ 0xDFFF)

def pairChar (lead trail : Nat) : Char :=
  Char.ofNat (0x10000 + 0x400 * (lead - 0xD800) + (trail - 0xDC00))

def simpleEscape? (c : Char) : Option Char :=
  if c = '"' ∨ c = '\\' ∨ c = '/' then some c
  else if c = 'b' then some (Char.ofNat 8)
  else if c = 'f' then some (Char.ofNat 12)
  else if c = 'n' then some '\n'
  else if c = 'r' then some '\r'
  else if c = 't' then some '\t'
  else none

inductive Part where
  | char (c : Char)
  | code (n : Nat)
  deriving DecidableEq, Repr

inductive Ending where
  | closed (rest : List Char)
  | broken (defect : Defect)
  deriving DecidableEq, Repr

def scanString : List Char → List Part × Ending
  | [] => ([], .broken .ended)
  | '"' :: cs => ([], .closed cs)
  | '\\' :: [] => ([], .broken .ended)
  | '\\' :: 'u' :: a :: b :: c :: d :: cs =>
    match hex4? a b c d with
    | none => ([], .broken .malformed)
    | some n => let (parts, ending) := scanString cs; (.code n :: parts, ending)
  | '\\' :: 'u' :: cs => ([], .broken (if byteSize cs < 4 then .ended else .malformed))
  | '\\' :: c :: cs =>
    match simpleEscape? c with
    | none => ([], .broken .malformed)
    | some e => let (parts, ending) := scanString cs; (.char e :: parts, ending)
  | c :: cs =>
    if c.toNat < 0x20 then ([], .broken .malformed)
    else let (parts, ending) := scanString cs; (.char c :: parts, ending)

/-- The text that parts stand for. A code from the range of pairs needs its partner; `cut` is the defect
of a first half after which nothing stands. -/
def joinParts (cut : Defect) : List Part → Except Defect (List Char)
  | [] => .ok []
  | .char c :: parts => (joinParts cut parts).map (c :: ·)
  | .code n :: parts =>
    if isLead n then
      match parts with
      | [] => .error cut
      | .code m :: rest =>
        if isTrail m then (joinParts cut rest).map (pairChar n m :: ·) else .error .malformed
      | .char _ :: _ => .error .malformed
    else if isTrail n then .error .malformed
    else (joinParts cut parts).map (Char.ofNat n :: ·)

theorem length_lt_of_scanString {cs rest : List Char} {parts : List Part}
    (closed : scanString cs = (parts, .closed rest)) : rest.length < cs.length := by
  fun_induction scanString cs generalizing parts with
  | case2 => simp_all
  | case5 a b c d cs n _ parts' ending step ih =>
    simp only [Prod.mk.injEq] at closed
    have := ih (step.trans (by rw [closed.2]))
    simp only [List.length_cons]; omega
  | case8 c cs _ _ e _ parts' ending step ih =>
    simp only [Prod.mk.injEq] at closed
    have := ih (step.trans (by rw [closed.2]))
    simp only [List.length_cons]; omega
  | case10 c cs _ _ _ _ _ _ parts' ending step ih =>
    simp only [Prod.mk.injEq] at closed
    have := ih (step.trans (by rw [closed.2]))
    simp only [List.length_cons]; omega
  | _ => simp_all

def scanWord : List Char → List Char → Except Defect (List Char)
  | [], cs => .ok cs
  | _ :: _, [] => .error .ended
  | e :: es, c :: cs => if c = e then scanWord es cs else .error .malformed

theorem length_le_of_scanWord {word cs rest : List Char} (found : scanWord word cs = .ok rest) :
    rest.length ≤ cs.length := by
  induction word generalizing cs with
  | nil =>
    simp only [scanWord, Except.ok.injEq] at found
    exact found ▸ Nat.le_refl _
  | cons e es ih =>
    cases cs with
    | nil => simp [scanWord] at found
    | cons c cs =>
      unfold scanWord at found
      split at found
      · exact Nat.le_succ_of_le (ih found)
      · simp at found

def mark? (c : Char) : Option Token :=
  if c = '\x7b' then some .leftBrace
  else if c = '\x7d' then some .rightBrace
  else if c = '[' then some .leftBracket
  else if c = ']' then some .rightBracket
  else if c = ':' then some .colon
  else if c = ',' then some .comma
  else none

def word? (c : Char) : Option (List Char × Token) :=
  if c = 'n' then some (['u', 'l', 'l'], .null)
  else if c = 't' then some (['r', 'u', 'e'], .bool true)
  else if c = 'f' then some (['a', 'l', 's', 'e'], .bool false)
  else none

def lex : List Char → List Token
  | [] => []
  | c :: cs =>
    if isBlank c then lex cs
    else
      match mark? c with
      | some token => token :: lex cs
      | none =>
        match word? c with
        | some (letters, token) =>
          match _step : scanWord letters cs with
          | .ok rest => token :: lex rest
          | .error defect => [.brokenWord defect]
        | none =>
          if c = '"' then
            match _step : scanString cs with
            | (parts, .closed rest) =>
              .string ((joinParts .malformed parts).toOption.map String.ofList) :: lex rest
            | (parts, .broken defect) =>
              match joinParts defect parts with
              | .ok _ => [.brokenString defect defect]
              | .error used => [.brokenString used defect]
          else if c = '-' ∨ c.isDigit then
            match _step : Numeral.scan (c :: cs) with
            | .done numeral rest => .number numeral :: lex rest
            | .failed atEnd => [.brokenNumber atEnd]
          else [.stray]
termination_by cs => cs.length
decreasing_by
  · simp
  · simp
  · have := length_le_of_scanWord _step
    simp only [List.length_cons]; omega
  · have := length_lt_of_scanString _step
    simp only [List.length_cons]; omega
  · have := Numeral.length_lt_of_scan _step
    exact this

end ConventionLint.Json
