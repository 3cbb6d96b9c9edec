import Mathlib.Data.List.Lex
import Mathlib.Order.Lattice

namespace WebGameServer
set_option autoImplicit true

/-- A component of a path as it is written. -/
inductive PathStep (α : Type) where
  | stay
  | up
  | down (a : α)

namespace PathStep

variable {α : Type}

/-- Where a component leads from a directory. The root is its own parent. -/
def move (cur : List α) : PathStep α → List α
  | .stay => cur
  | .up => cur.dropLast
  | .down a => cur ++ [a]

end PathStep

/-- At the first component in which the two paths differ the second one has the greater one. -/
def Beyond {α : Type} [LT α] (p q : List α) : Prop :=
  ∃ pre a b post post', p = pre ++ a :: post ∧ q = pre ++ b :: post' ∧ a < b

section Order

variable {α : Type} [LinearOrder α] {p q : List α}

theorem Beyond.cons (a : α) (h : Beyond p q) : Beyond (a :: p) (a :: q) := by
  obtain ⟨pre, b, c, post, post', rfl, rfl, hbc⟩ := h
  exact ⟨a :: pre, b, c, post, post', rfl, rfl, hbc⟩

/-- The order of paths tells whether a path lies inside another one or beyond it from the
remaining paths, but not the two from each other. -/
theorem not_lt_iff_prefix_or_beyond : ¬ q < p ↔ p <+: q ∨ Beyond p q := by
  induction p generalizing q with
  | nil => exact ⟨fun _ => .inl List.nil_prefix, fun _ => List.not_lt_nil q⟩
  | cons a p ih =>
    cases q with
    | nil =>
      constructor
      · exact fun h => (h (List.nil_lt_cons a p)).elim
      · rintro (h | ⟨pre, b, c, post, post', -, h, -⟩)
        · exact absurd (List.prefix_nil.1 h) (List.cons_ne_nil a p)
        · exact absurd h.symm (List.append_ne_nil_of_right_ne_nil pre (List.cons_ne_nil c post'))
    | cons b q =>
      rw [List.cons_lt_cons_iff, not_or, not_and, not_lt, List.cons_prefix_cons]
      constructor
      · rintro ⟨hab, hq⟩
        rcases hab.lt_or_eq with hlt | rfl
        · exact .inr ⟨[], a, b, p, q, rfl, rfl, hlt⟩
        · rcases ih.1 (hq rfl) with hp | hb
          · exact .inl ⟨rfl, hp⟩
          · exact .inr (hb.cons a)
      · rintro (⟨rfl, hp⟩ | ⟨pre, c, d, post, post', hc, hd, hlt⟩)
        · exact ⟨le_refl a, fun _ => ih.2 (.inl hp)⟩
        · cases pre with
          | nil =>
            cases hc
            cases hd
            exact ⟨hlt.le, fun he => (hlt.ne' he).elim⟩
          | cons e pre =>
            cases hc
            cases hd
            exact ⟨le_refl a, fun _ => ih.2 (.inr ⟨pre, c, d, post, post', rfl, rfl, hlt⟩)⟩

theorem Beyond.not_prefix (h : Beyond p q) : ¬ p <+: q := by
  obtain ⟨pre, a, b, post, post', rfl, rfl, hab⟩ := h
  intro hp
  have htail := (List.prefix_append_right_inj pre).1 hp
  exact hab.ne (List.cons_prefix_cons.1 htail).1

end Order

end WebGameServer
