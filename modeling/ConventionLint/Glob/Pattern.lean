namespace ConventionLint.Glob

inductive Token where
  | literal (c : Char)
  | any
  | star
  | leadingDirs
  | trailingDirs
  | innerDirs
  | set (negated : Bool) (ranges : List (Char × Char))
  | alternates (branches : List (List Token))
  deriving Repr

inductive Error where
  | unclosedSet
  | invalidRange (low high : Char)
  | unopenedGroup
  | unclosedGroup
  | danglingEscape
  deriving DecidableEq, Repr

def Error.reason : Error → String
  | unclosedSet => "unclosed character class; missing ']'"
  | invalidRange low high =>
    "invalid range; '" ++ low.toString ++ "' > '" ++ high.toString ++ "'"
  | unopenedGroup => "unopened alternate group; missing '\x7b' (maybe escape '\x7d' with '[\x7d]'?)"
  | unclosedGroup => "unclosed alternate group; missing '\x7d' (maybe escape '\x7b' with '[\x7b]'?)"
  | danglingEscape => "dangling '\\'"

def Error.message (text : String) (error : Error) : String :=
  "error parsing glob '" ++ text ++ "': " ++ error.reason

structure Pattern where
  text : String
  tokens : List Token
  deriving Repr

structure OpenSet where
  ranges : List (Char × Char)
  inRange : Bool

def OpenSet.add (members : OpenSet) (c : Char) : Except Error OpenSet :=
  if members.inRange then
    match members.ranges with
    | (low, _) :: ranges => if c < low then .error (.invalidRange low c) else .ok ⟨(low, c) :: ranges, false⟩
    | [] => .ok ⟨[(c, c)], false⟩
  else .ok ⟨(c, c) :: members.ranges, false⟩

def OpenSet.close (members : OpenSet) : List (Char × Char) :=
  (if members.inRange then ('-', '-') :: members.ranges else members.ranges).reverse

def scanSet (members : OpenSet) : List Char → Except Error (List (Char × Char) × List Char)
  | [] => .error .unclosedSet
  | c :: cs =>
    if c = ']' then .ok (members.close, cs)
    else if c = '-' ∧ !members.inRange then scanSet { members with inRange := true } cs
    else
      match members.add c with
      | .error e => .error e
      | .ok members => scanSet members cs

def scanNegation : List Char → Bool × List Char
  | [] => (false, [])
  | c :: cs => if c = '!' ∨ c = '^' then (true, cs) else (false, c :: cs)

/-- Scan a set after its opening bracket. Its first member stands for itself, even a closing bracket or a
dash. -/
def scanClass (cs : List Char) : Except Error (Token × List Char) :=
  let (negated, members) := scanNegation cs
  match members with
  | [] => .error .unclosedSet
  | c :: cs =>
    match scanSet ⟨[(c, c)], false⟩ cs with
    | .error e => .error e
    | .ok (ranges, rest) => .ok (.set negated ranges, rest)

structure Level where
  branches : List (List Token) := []
  tokens : List Token := []

def Level.push (level : Level) (token : Token) : Level := { level with tokens := token :: level.tokens }

structure Levels where
  inner : Level := {}
  outer : List Level := []

def Levels.push (levels : Levels) (token : Token) : Levels := { levels with inner := levels.inner.push token }

/-- Put two stars after tokens, given the character before the stars and what follows them: the tokens
that result, and what is left. -/
def scanStars (inGroup : Bool) (before : Option Char) (tokens : List Token) (next : List Char) :
    List Token × List Char :=
  let plain := (.star :: .star :: tokens, next)
  let replace (token : Token) : List Token :=
    match tokens with
    | .leadingDirs :: _ => tokens
    | .trailingDirs :: _ => tokens
    | _ :: tokens => token :: tokens
    | [] => [token]
  if tokens.isEmpty then
    match next with
    | [] => ([.leadingDirs], [])
    | '/' :: rest => ([.leadingDirs], rest)
    | _ => plain
  else if before ≠ some '/' ∧ !(inGroup && (before == some ',' || before == some '\x7b')) then plain
  else
    match next with
    | [] => (replace .trailingDirs, [])
    | '/' :: rest => (replace .innerDirs, rest)
    | c :: _ => if inGroup ∧ (c = ',' ∨ c = '\x7d') then (replace .trailingDirs, next) else plain

theorem length_scanStars_le (inGroup : Bool) (before : Option Char) (tokens : List Token)
    (next : List Char) : (scanStars inGroup before tokens next).2.length ≤ next.length := by
  unfold scanStars
  repeat' split
  all_goals simp

theorem length_le_of_scanSet {members : OpenSet} {cs rest : List Char} {ranges : List (Char × Char)}
    (done : scanSet members cs = .ok (ranges, rest)) : rest.length ≤ cs.length := by
  fun_induction scanSet members cs with
  | case1 => simp at done
  | case2 => simp_all
  | case3 members c cs _ _ ih => exact Nat.le_succ_of_le (ih done)
  | case4 => simp at done
  | case5 members c cs _ _ next _ ih => exact Nat.le_succ_of_le (ih done)

theorem length_scanNegation_le (cs : List Char) : (scanNegation cs).2.length ≤ cs.length := by
  cases cs with
  | nil => exact Nat.le_refl _
  | cons c cs => simp only [scanNegation]; split <;> simp

theorem length_le_of_scanClass {cs rest : List Char} {token : Token}
    (done : scanClass cs = .ok (token, rest)) : rest.length ≤ cs.length := by
  have members := length_scanNegation_le cs
  simp only [scanClass] at done
  split at done
  · simp at done
  · next step =>
    rw [step] at members
    split at done
    · simp at done
    · next found =>
      simp only [Except.ok.injEq, Prod.mk.injEq] at done
      have := length_le_of_scanSet found
      simp only [List.length_cons] at members
      rw [← done.2]
      omega

def scan (levels : Levels) (before : Option Char) : List Char → Except Error Levels
  | [] => .ok levels
  | c :: cs =>
    if c = '?' then scan (levels.push .any) (some c) cs
    else if c = '*' then
      match cs with
      | '*' :: next =>
        let stars := scanStars (!levels.outer.isEmpty) before levels.inner.tokens next
        let grown := { levels with inner := { levels.inner with tokens := stars.1 } }
        scan grown (some (if stars.2.length < next.length then '/' else '*')) stars.2
      | cs => scan (levels.push .star) (some c) cs
    else if c = '[' then
      match _step : scanClass cs with
      | .error e => .error e
      | .ok (token, rest) => scan (levels.push token) (some ']') rest
    else if c = '\x7b' then scan ⟨{}, levels.inner :: levels.outer⟩ (some c) cs
    else if c = '\x7d' then
      match levels.outer with
      | [] => .error .unopenedGroup
      | level :: outer =>
        let branches := (levels.inner.tokens.reverse :: levels.inner.branches).reverse
        scan ⟨level.push (.alternates branches), outer⟩ (some c) cs
    else if c = ',' ∧ !levels.outer.isEmpty then
      let inner := levels.inner
      scan { levels with inner := ⟨inner.tokens.reverse :: inner.branches, []⟩ } (some c) cs
    else if c = '\\' then
      match cs with
      | [] => .error .danglingEscape
      | d :: cs => scan (levels.push (.literal d)) (some d) cs
    else scan (levels.push (.literal c)) (some c) cs
termination_by cs => cs.length
decreasing_by
  · simp
  · have := length_scanStars_le (!levels.outer.isEmpty) before levels.inner.tokens next
    simp only [List.length_cons]; omega
  · simp
  · have := length_le_of_scanClass _step
    simp only [List.length_cons]; omega
  · simp
  · simp
  · simp
  · simp only [List.length_cons]; omega
  · simp

def Pattern.parse (text : String) : Except Error Pattern :=
  match scan {} none text.toList with
  | .error e => .error e
  | .ok levels =>
    if levels.outer.isEmpty then .ok ⟨text, levels.inner.tokens.reverse⟩ else .error .unclosedGroup

end ConventionLint.Glob
