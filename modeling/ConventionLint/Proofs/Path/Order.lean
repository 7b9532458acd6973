import ConventionLint.Path
import Mathlib.Data.List.Basic
import Mathlib.Data.List.Lex

namespace ConventionLint.Path

namespace Component

def rank : Component → Nat
  | root => 0
  | here => 1
  | up => 2
  | name _ => 3

def bytes : Component → Bytes
  | name bytes => bytes
  | _ => []

def Precedes (first second : Component) : Prop :=
  first.rank < second.rank ∨
    (first.rank = second.rank ∧ List.Lex (· < ·) first.bytes second.bytes)

theorem eq_of_rank_of_bytes (first second : Component) (rank : first.rank = second.rank)
    (bytes : first.bytes = second.bytes) : first = second := by
  cases first <;> cases second <;> simp_all [Component.rank, Component.bytes]

theorem key_eq (component : Component) :
    component.key = component.rank :: component.bytes.map UInt8.toNat := by
  cases component with
  | root => rfl
  | here => rfl
  | up => rfl
  | name bytes => rfl

theorem map_toNat_lt_iff (first second : Bytes) :
    first.map UInt8.toNat < second.map UInt8.toNat ↔ List.Lex (· < ·) first second := by
  induction first generalizing second with
  | nil =>
      cases second with
      | nil => simp
      | cons b second => simp
  | cons a first ih =>
      cases second with
      | nil => simp
      | cons b second =>
          rw [List.cons_lex_cons_iff, List.map_cons, List.map_cons, List.cons_lt_cons_iff, ih,
            ← UInt8.lt_iff_toNat_lt, UInt8.toNat_inj]

theorem key_lt_iff (first second : Component) : first.key < second.key ↔ first.Precedes second := by
  rw [key_eq, key_eq, List.cons_lt_cons_iff, map_toNat_lt_iff]
  rfl

theorem key_injective : Function.Injective key := by
  intro first second same
  rw [key_eq, key_eq] at same
  obtain ⟨ranks, rest⟩ := List.cons.inj same
  have bytes := (List.map_inj_right fun _ _ => UInt8.toNat_inj.mp).mp rest
  exact eq_of_rank_of_bytes first second ranks bytes

end Component

/-- The order of paths: by the first component that differs, or by the end of one of them. -/
def Before (first second : Path) : Prop :=
  List.Lex Component.Precedes first.components second.components

theorem lex_iff_map_key_lt (first second : List Component) :
    List.Lex Component.Precedes first second ↔
      first.map Component.key < second.map Component.key := by
  induction first generalizing second with
  | nil =>
      cases second with
      | nil => simp
      | cons d second => simp
  | cons c first ih =>
      cases second with
      | nil => simp
      | cons d second =>
          rw [List.cons_lex_cons_iff, List.map_cons, List.map_cons, List.cons_lt_cons_iff, ih,
            Component.key_lt_iff, Component.key_injective.eq_iff]

theorem before_iff (first second : Path) : first.Before second ↔ first.key < second.key :=
  lex_iff_map_key_lt first.components second.components

theorem key_eq_iff (first second : Path) :
    first.key = second.key ↔ first.components = second.components :=
  Component.key_injective.list_map.eq_iff

theorem le_iff (a b : Path) : a.le b = true ↔ a.key ≤ b.key := by
  have inner : (fun second first : List Nat => List.lex second first fun m n => decide (m < n)) =
      fun second first => decide (second < first) := by
    funext second first
    rw [Bool.eq_iff_iff, decide_eq_true_iff]
    exact List.lex_eq_true_iff_lt
  rw [Path.le, inner, Bool.not_eq_true', ← Bool.not_eq_true, ← not_lt]
  exact not_congr List.lex_eq_true_iff_lt

theorem join_of_isAbsolute (base path : Path) (absolute : path.isAbsolute = true) :
    base.join path = path :=
  if_pos (.inl absolute)

end ConventionLint.Path
