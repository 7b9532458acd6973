import ConventionLint.Json.Token
import ConventionLint.Text.Letter
import ConventionLint.Text.NamePart

/-!
Tokens of JSON5.

Strings and names are kept as their components, because a name that was written with an escape is no
keyword, and because half of a pair of escapes is well formed here: only reading its text fails.
-/
namespace ConventionLint.Json5

open Json (hexValue? hex4?)

/-- A component of a string or name: a character, with the source that stands for it (without a
backslash), or a code of four hexadecimal digits. -/
inductive Component where
  | char (source : List Char) (value : Char)
  | code (value : Nat)
  deriving DecidableEq, Repr

inductive Token where
  | leftBrace
  | rightBrace
  | leftBracket
  | rightBracket
  | colon
  | comma
  | string (components : List Component)
  | name (components : List Component)
  | number (text : List Char)
  deriving DecidableEq, Repr

def isTerminator (c : Char) : Bool :=
  c == '\n' || c == '\r' || c.toNat == 0x2028 || c.toNat == 0x2029

def isBlank (c : Char) : Bool :=
  let n := c.toNat
  n == 0x09 || n == 0x0B || n == 0x0C || n == 0x20 || n == 0xA0 || n == 0xFEFF || n == 0x1680 ||
    (0x2000 ≤ n && n ≤ 0x200A) || n == 0x202F || n == 0x205F || n == 0x3000 || isTerminator c

def isNameStart (c : Char) : Bool := c == '$' || c == '_' || Text.isLetter c

def isNameChar (c : Char) : Bool := isNameStart c || Text.isNamePart c

/-- The character that a backslash and another one stand for. A digit other than zero, `x` and `u` stand
for none. -/
def escaped? (c : Char) : Option Char :=
  if c = 'b' then some (Char.ofNat 8)
  else if c = 'f' then some (Char.ofNat 12)
  else if c = 'n' then some '\n'
  else if c = 'r' then some '\r'
  else if c = 't' then some '\t'
  else if c = 'v' then some (Char.ofNat 11)
  else if c = '0' then some (Char.ofNat 0)
  else if c.isDigit ∨ c = 'x' ∨ c = 'u' then none
  else some c

def push (component : Component) (scanned : List Component × List Char) : List Component × List Char :=
  (component :: scanned.1, scanned.2)

def scanString (quote : Char) : List Char → Option (List Component × List Char)
  | [] => none
  | '\\' :: 'u' :: a :: b :: c :: d :: cs =>
    match hex4? a b c d with
    | some n => (scanString quote cs).map (push (.code n))
    | none => none
  | '\\' :: 'x' :: a :: b :: cs =>
    match hexValue? a, hexValue? b with
    | some m, some n => (scanString quote cs).map (push (.char [a, b] (Char.ofNat (16 * m + n))))
    | _, _ => none
  | '\\' :: '\r' :: '\n' :: cs => scanString quote cs
  | '\\' :: c :: cs =>
    if isTerminator c then scanString quote cs
    else
      match escaped? c with
      | some e => (scanString quote cs).map (push (.char [c] e))
      | none => none
  | c :: cs =>
    if c = quote then some ([], cs)
    else if c = '\\' ∨ isTerminator c then none
    else (scanString quote cs).map (push (.char [c] c))

def scanName : List Char → List Component × List Char
  | [] => ([], [])
  | '\\' :: 'u' :: a :: b :: c :: d :: cs =>
    match hex4? a b c d with
    | some n => push (.code n) (scanName cs)
    | none => ([], '\\' :: 'u' :: a :: b :: c :: d :: cs)
  | c :: cs => if isNameChar c then push (.char [c] c) (scanName cs) else ([], c :: cs)

def name? : List Char → Option (List Component × List Char)
  | [] => none
  | '\\' :: 'u' :: a :: b :: c :: d :: cs => (hex4? a b c d).map fun n => push (.code n) (scanName cs)
  | c :: cs => if isNameStart c then some (push (.char [c] c) (scanName cs)) else none

def scanComment : List Char → Option (List Char)
  | '/' :: cs => some (cs.dropWhile fun c => !isTerminator c)
  | '*' :: cs => close cs
  | _ => none
where
  close : List Char → Option (List Char)
  | [] => none
  | '*' :: '/' :: cs => some cs
  | _ :: cs => close cs

def digitCount (cs : List Char) : Nat := (cs.takeWhile Char.isDigit).length

def exponentLength : List Char → Nat
  | c :: cs =>
    if c = 'e' ∨ c = 'E' then
      let sign := match cs with
        | d :: _ => if d = '+' ∨ d = '-' then 1 else 0
        | [] => 0
      let digits := digitCount (cs.drop sign)
      if digits = 0 then 0 else 1 + sign + digits
    else 0
  | [] => 0

/-- The length of a decimal numeral without sign, or zero. Zero stands alone before the point. -/
def decimalLength (cs : List Char) : Nat :=
  let whole := match cs with
    | '0' :: _ => 1
    | cs => digitCount cs
  match cs.drop whole with
  | '.' :: rest =>
    let places := digitCount rest
    if whole = 0 ∧ places = 0 then 0
    else whole + 1 + places + exponentLength (rest.drop places)
  | rest => if whole = 0 then 0 else whole + exponentLength rest

def numeralLength : List Char → Nat
  | '0' :: x :: cs =>
    let digits := (cs.takeWhile fun c => (hexValue? c).isSome).length
    if (x = 'x' ∨ x = 'X') ∧ 0 < digits then 2 + digits else decimalLength ('0' :: x :: cs)
  | cs => decimalLength cs

def infinityText : List Char := ['I', 'n', 'f', 'i', 'n', 'i', 't', 'y']

def notANumberText : List Char := ['N', 'a', 'N']

def numberLength : List Char → Nat
  | c :: cs =>
    if c = '+' ∨ c = '-' then
      if infinityText.isPrefixOf cs then 9
      else if notANumberText.isPrefixOf cs then 4
      else if numeralLength cs = 0 then 0 else 1 + numeralLength cs
    else numeralLength (c :: cs)
  | [] => 0

theorem length_lt_of_scanString {quote : Char} {cs : List Char} {scanned : List Component × List Char}
    (done : scanString quote cs = some scanned) : scanned.2.length < cs.length := by
  have step : ∀ {component : Component} {cs : List Char} {scanned : List Component × List Char}
      {bound : Nat}, (∀ {scanned}, scanString quote cs = some scanned → scanned.2.length < cs.length) →
      (scanString quote cs).map (push component) = some scanned → cs.length ≤ bound →
      scanned.2.length < bound := by
    intro component cs scanned bound ih done le
    obtain ⟨inner, found, rfl⟩ := Option.map_eq_some_iff.mp done
    have shorter := ih found
    exact Nat.lt_of_lt_of_le shorter le
  fun_induction scanString quote cs generalizing scanned with
  | case1 => simp at done
  | case2 a b c d cs n _ ih => exact step ih done (by simp only [List.length_cons]; omega)
  | case3 => simp at done
  | case4 a b cs m n _ _ ih => exact step ih done (by simp only [List.length_cons]; omega)
  | case5 => simp at done
  | case6 cs ih =>
    have := ih done
    simp only [List.length_cons]; omega
  | case7 c cs _ _ _ _ ih =>
    have := ih done
    simp only [List.length_cons]; omega
  | case8 c cs _ _ _ _ e _ ih => exact step ih done (by simp only [List.length_cons]; omega)
  | case9 => simp at done
  | case10 =>
    simp only [Option.some.injEq] at done
    subst done
    exact Nat.lt_succ_self _
  | case11 => simp at done
  | case12 c cs _ _ _ _ _ _ ih => exact step ih done (by simp only [List.length_cons]; omega)

theorem length_scanName_le (cs : List Char) : (scanName cs).2.length ≤ cs.length := by
  fun_induction scanName cs with
  | case1 => exact Nat.le_refl _
  | case2 a b c d cs n _ ih => simp only [push, List.length_cons]; omega
  | case3 => exact Nat.le_refl _
  | case4 c cs _ _ ih => simp only [push, List.length_cons]; omega
  | case5 => exact Nat.le_refl _

theorem length_lt_of_name? {cs : List Char} {scanned : List Component × List Char}
    (done : name? cs = some scanned) : scanned.2.length < cs.length := by
  unfold name? at done
  split at done
  · simp at done
  · next a b c d cs =>
    obtain ⟨n, _, rfl⟩ := Option.map_eq_some_iff.mp done
    have := length_scanName_le cs
    simp only [push, List.length_cons]; omega
  · next c cs _ =>
    split at done
    · simp only [Option.some.injEq] at done
      subst done
      exact Nat.lt_succ_of_le (length_scanName_le cs)
    · simp at done

theorem length_le_of_close {cs rest : List Char} (done : scanComment.close cs = some rest) :
    rest.length ≤ cs.length := by
  fun_induction scanComment.close cs with
  | case1 => simp at done
  | case2 cs =>
    simp only [Option.some.injEq] at done
    subst done
    simp only [List.length_cons]; omega
  | case3 c cs _ ih => exact Nat.le_succ_of_le (ih done)

theorem length_le_of_scanComment {cs rest : List Char} (done : scanComment cs = some rest) :
    rest.length ≤ cs.length := by
  unfold scanComment at done
  split at done
  · simp only [Option.some.injEq] at done
    exact done ▸ Nat.le_succ_of_le (List.dropWhile_sublist _).length_le
  · exact Nat.le_succ_of_le (length_le_of_close done)
  · simp at done

def mark? (c : Char) : Option Token :=
  if c = '\x7b' then some .leftBrace
  else if c = '\x7d' then some .rightBrace
  else if c = '[' then some .leftBracket
  else if c = ']' then some .rightBracket
  else if c = ':' then some .colon
  else if c = ',' then some .comma
  else none

def lex : List Char → Option (List Token)
  | [] => some []
  | c :: cs =>
    if isBlank c then lex cs
    else
      match mark? c with
      | some token => (lex cs).map (token :: ·)
      | none =>
        if c = '/' then
          match _step : scanComment cs with
          | some rest => lex rest
          | none => none
        else if c = '"' ∨ c = '\x27' then
          match _step : scanString c cs with
          | some scanned => (lex scanned.2).map (.string scanned.1 :: ·)
          | none => none
        else if _step : 0 < numberLength (c :: cs) then
          (lex ((c :: cs).drop (numberLength (c :: cs)))).map
            (.number ((c :: cs).take (numberLength (c :: cs))) :: ·)
        else
          match _step : name? (c :: cs) with
          | some scanned => (lex scanned.2).map (.name scanned.1 :: ·)
          | none => none
termination_by cs => cs.length
decreasing_by
  · simp
  · simp
  · have := length_le_of_scanComment _step
    simp only [List.length_cons]; omega
  · have := length_lt_of_scanString _step
    simp only [List.length_cons]; omega
  · simp only [List.length_drop, List.length_cons]; omega
  · exact length_lt_of_name? _step

end ConventionLint.Json5
