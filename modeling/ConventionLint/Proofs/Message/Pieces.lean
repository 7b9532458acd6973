import ConventionLint.Message

namespace ConventionLint.Message

theorem pieces_plain (count : Nat) (plain rest : List Char) (free : '{' ∉ plain) :
    pieces count (plain ++ rest) = plain.map Piece.char ++ pieces count rest := by
  induction plain with
  | nil => rfl
  | cons c plain ih =>
      rw [List.mem_cons, not_or] at free
      have other : c ≠ '{' := Ne.symm free.1
      rw [List.cons_append, pieces, if_neg other, ih free.2]
      rfl

theorem pieces_slot (count index : Nat) (cs rest : List Char)
    (found : slot? count cs = some (index, rest)) :
    pieces count ('{' :: cs) = .slot index :: pieces count rest := by
  rw [pieces, if_pos rfl]
  split
  · next other stays same =>
      rw [found] at same
      cases same
      rfl
  · next missing =>
      rw [found] at missing
      cases missing

theorem flatMap_fill_plain (args : List String) (plain : List Char) :
    (plain.map Piece.char).flatMap (Piece.fill args) = plain := by
  induction plain with
  | nil => rfl
  | cons c plain ih => simp [Piece.fill, ih]

theorem format_single (before after arg : String) (free : '{' ∉ before.toList)
    (freeAfter : '{' ∉ after.toList) :
    format (before ++ "\x7b0\x7d" ++ after) [arg] = before ++ arg ++ after := by
  have found : slot? 1 ('0' :: '}' :: after.toList) = some (0, after.toList) := rfl
  have tail : pieces 1 after.toList = after.toList.map Piece.char := by
    have cut := pieces_plain 1 after.toList [] freeAfter
    rwa [List.append_nil, pieces, List.append_nil] at cut
  have template : (before ++ "\x7b0\x7d" ++ after).toList =
      before.toList ++ '{' :: '0' :: '}' :: after.toList := by
    simp
  rw [format, List.length_singleton, template, pieces_plain 1 _ _ free, pieces_slot 1 0 _ _ found,
    tail]
  simp [flatMap_fill_plain, Piece.fill, String.append_assoc]

end ConventionLint.Message
