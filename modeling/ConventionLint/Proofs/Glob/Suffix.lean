import ConventionLint.Glob.Match
import Mathlib.Data.List.Infix

namespace ConventionLint.Glob

def encoded (cs : List Char) : Bytes := cs.flatMap String.utf8EncodeChar

theorem tails_eq (path : Bytes) : tails path = path.tails := by
  induction path with
  | nil => rfl
  | cons b path ih => rw [tails, ih, List.tails_cons]

theorem suffix_of_mem_afterSlashes (path rest : Bytes) (member : rest ∈ afterSlashes path) :
    rest <:+ path := by
  induction path with
  | nil => cases member
  | cons b path ih =>
      have later : rest ∈ afterSlashes path → rest <:+ b :: path := fun inside =>
        (ih inside).trans (List.suffix_cons b path)
      rw [afterSlashes] at member
      split at member
      · rcases List.mem_cons.mp member with rfl | inside
        · exact List.suffix_cons b rest
        · exact later inside
      · exact later member

theorem mem_rests (tokens : List Token) (paths : List Bytes) (rest : Bytes) :
    rest ∈ rests tokens paths ↔ ∃ path ∈ paths, rest ∈ rests tokens [path] := by
  induction tokens generalizing paths with
  | nil => simp [rests]
  | cons token tokens ih =>
      have step : ∀ some : List Bytes, rest ∈ rests (token :: tokens) some ↔
          ∃ path ∈ some, ∃ middle ∈ token.rests path, rest ∈ rests tokens [middle] := by
        intro some
        rw [rests, ih]
        simp only [List.mem_eraseDups, List.mem_flatMap]
        constructor
        · rintro ⟨middle, ⟨path, listed, left⟩, last⟩
          exact ⟨path, listed, middle, left, last⟩
        · rintro ⟨path, listed, middle, left, last⟩
          exact ⟨middle, ⟨path, listed, left⟩, last⟩
      simp only [step, List.mem_singleton, exists_eq_left]

theorem mem_rests_cons (token : Token) (tokens : List Token) (path rest : Bytes) :
    rest ∈ rests (token :: tokens) [path] ↔
      ∃ middle ∈ token.rests path, rest ∈ rests tokens [middle] := by
  rw [rests, mem_rests]
  simp

theorem mem_rests_literal (c : Char) (path rest : Bytes) :
    rest ∈ (Token.literal c).rests path ↔ path = String.utf8EncodeChar c ++ rest := by
  rw [Token.rests]
  constructor
  · intro member
    split at member
    · next starts =>
        obtain ⟨back, rfl⟩ := List.isPrefixOf_iff_prefix.mp starts
        rw [List.mem_singleton, List.drop_left] at member
        rw [member]
    · cases member
  · rintro rfl
    have starts : (String.utf8EncodeChar c).isPrefixOf (String.utf8EncodeChar c ++ rest) = true :=
      List.isPrefixOf_iff_prefix.mpr (List.prefix_append _ _)
    simp [starts]

theorem mem_rests_literals (cs : List Char) (path rest : Bytes) :
    rest ∈ rests (cs.map Token.literal) [path] ↔ path = encoded cs ++ rest := by
  induction cs generalizing path with
  | nil => simp [rests, encoded, eq_comm]
  | cons c cs ih =>
      rw [List.map_cons, mem_rests_cons]
      simp only [mem_rests_literal, ih, encoded, List.flatMap_cons, List.append_assoc,
        exists_eq_right]

/-- Leading directories, a star and literals match the paths that end with the literals. -/
theorem covers_iff_suffix (text : String) (cs : List Char) (path : Bytes) :
    (Pattern.mk text (.leadingDirs :: .star :: cs.map Token.literal)).covers path = true ↔
      encoded cs <:+ path := by
  rw [Pattern.covers, List.contains_iff_mem, mem_rests_cons]
  simp only [mem_rests_cons, mem_rests_literals, Token.rests, tails_eq, List.mem_tails,
    List.append_nil, exists_eq_right]
  constructor
  · rintro ⟨below, member, ends⟩
    rcases List.mem_cons.mp member with rfl | later
    · exact ends
    · exact ends.trans (suffix_of_mem_afterSlashes path below later)
  · intro ends
    exact ⟨path, List.mem_cons_self, ends⟩

def special : List Char := ['?', '*', '[', '\x7b', '\x7d', ',', '\\']

theorem scan_literal (levels : Levels) (before : Option Char) (c : Char) (cs : List Char)
    (plain : c ∉ special) :
    scan levels before (c :: cs) = scan (levels.push (.literal c)) (some c) cs := by
  simp only [special, List.mem_cons, List.not_mem_nil, or_false, not_or] at plain
  rw [scan.eq_def]
  simp [plain]

theorem scan_literals (inner : Level) (outer : List Level) (before : Option Char) (cs : List Char)
    (plain : ∀ c ∈ cs, c ∉ special) :
    scan ⟨inner, outer⟩ before cs =
      .ok ⟨⟨inner.branches, (cs.map Token.literal).reverse ++ inner.tokens⟩, outer⟩ := by
  induction cs generalizing inner before with
  | nil => rw [scan.eq_def]; rfl
  | cons c cs ih =>
      obtain ⟨first, rest⟩ := List.forall_mem_cons.mp plain
      rw [scan_literal _ before c cs first, Levels.push, ih (inner.push (.literal c)) (some c) rest,
        Level.push, List.map_cons, List.reverse_cons, List.append_assoc, List.singleton_append]

theorem scan_star (levels : Levels) (before : Option Char) (cs : List Char)
    (single : cs.head? ≠ some '*') :
    scan levels before ('*' :: cs) = scan (levels.push .star) (some '*') cs := by
  rw [scan.eq_def]
  cases cs with
  | nil => simp
  | cons c cs =>
      have other : c ≠ '*' := fun same => single (by rw [same]; rfl)
      simp [other]

theorem parse_suffix (cs : List Char) (plain : ∀ c ∈ cs, c ∉ special) :
    Pattern.parse (String.ofList ('*' :: '*' :: '/' :: '*' :: cs)) =
      .ok ⟨String.ofList ('*' :: '*' :: '/' :: '*' :: cs),
        .leadingDirs :: .star :: cs.map Token.literal⟩ := by
  have single : cs.head? ≠ some '*' := by
    intro starts
    exact plain '*' (List.mem_of_head? starts) (by decide)
  have stars : scanStars false none [] ('/' :: '*' :: cs) = ([.leadingDirs], '*' :: cs) := rfl
  have dirs : scan {} none ('*' :: '*' :: '/' :: '*' :: cs) =
      scan ⟨⟨[], [.leadingDirs]⟩, []⟩ (some '/') ('*' :: cs) := by
    rw [scan.eq_def]
    simp [stars]
  rw [Pattern.parse, String.toList_ofList, dirs, scan_star _ _ cs single, Levels.push,
    scan_literals _ _ _ cs plain]
  simp [Level.push]

end ConventionLint.Glob
