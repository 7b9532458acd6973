import ConventionLint.Decimal.Natural

namespace ConventionLint.Message

inductive Piece where
  | char (c : Char)
  | slot (index : Nat)
  deriving DecidableEq, Repr

def digits? (cs : List Char) : Option Nat :=
  if !cs.isEmpty && cs.all Char.isDigit then some (Decimal.value cs) else none

/-- An index is a run of digits with at most one plus sign before it, and fits a machine word. -/
def index? (cs : List Char) : Option Nat :=
  let value := match cs with
    | '+' :: ds => digits? ds
    | ds => digits? ds
  value.filter (· < 18446744073709551616)

def slot? (count : Nat) (cs : List Char) : Option (Nat × List Char) :=
  match cs.dropWhile (· != '}') with
  | [] => none
  | _ :: rest =>
    match index? (cs.takeWhile (· != '}')) with
    | none => none
    | some index => if index < count then some (index, rest) else none

theorem length_dropWhile_le {α : Type} (p : α → Bool) (xs : List α) :
    (xs.dropWhile p).length ≤ xs.length := by
  induction xs with
  | nil => simp
  | cons x xs ih =>
    rw [List.dropWhile_cons]
    split
    · simp only [List.length_cons]; omega
    · exact Nat.le_refl _

theorem length_slot? {count index : Nat} {cs rest : List Char}
    (found : slot? count cs = some (index, rest)) : rest.length < cs.length := by
  have bound := length_dropWhile_le (· != '}') cs
  unfold slot? at found
  split at found
  · simp at found
  · next cut =>
    rw [cut] at bound
    split at found
    · simp at found
    · split at found
      · simp only [Option.some.injEq, Prod.mk.injEq] at found
        obtain ⟨_, rfl⟩ := found
        simp only [List.length_cons] at bound
        omega
      · simp at found

/-- Cut a template for `count` arguments. A brace that opens no slot stands for itself. -/
def pieces (count : Nat) : List Char → List Piece
  | [] => []
  | c :: cs =>
    if c = '{' then
      match _found : slot? count cs with
      | some (index, rest) => .slot index :: pieces count rest
      | none => .char c :: pieces count cs
    else .char c :: pieces count cs
termination_by cs => cs.length
decreasing_by
  · have := length_slot? _found
    simp only [List.length_cons]; omega
  · simp
  · simp

def Piece.fill (args : List String) : Piece → List Char
  | .char c => [c]
  | .slot index => (args[index]?.getD "").toList

def format (template : String) (args : List String) : String :=
  String.ofList ((pieces args.length template.toList).flatMap (Piece.fill args))

end ConventionLint.Message
