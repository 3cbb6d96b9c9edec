import Mathlib.Logic.Function.Basic

namespace WebGameServer
set_option autoImplicit true

/-- Every place of the line has the value. -/
def Filled {Cell Value Place : Type} (cells : Cell → Value) (line : Place → Cell)
    (v : Value) : Prop :=
  ∀ i, cells (line i) = v

section Filled

variable {Cell Value Place : Type} [DecidableEq Cell] {cells : Cell → Value}
  {line : Place → Cell} {c : Cell} {v w : Value}

theorem filled_update_of_ne (h : ∀ i, line i ≠ c) :
    Filled (Function.update cells c v) line w ↔ Filled cells line w := by
  constructor
  · intro hf i
    rw [← hf i, Function.update_of_ne (h i)]
  · intro hf i
    rw [Function.update_of_ne (h i)]
    exact hf i

theorem Filled.update_eq (h : Filled (Function.update cells c v) line w) (hc : ∃ i, line i = c) :
    w = v := by
  obtain ⟨i, hi⟩ := hc
  rw [← h i, hi, Function.update_self]

/-- While no line is filled, it is enough to look at the lines through the cell that changes. -/
theorem exists_filled_update_iff {IsLine : (Place → Cell) → Prop} {blank : Value}
    (h : ∀ line w, IsLine line → Filled cells line w → w = blank) (hw : w ≠ blank) :
    (∃ line, IsLine line ∧ Filled (Function.update cells c v) line w) ↔
      w = v ∧ ∃ line, IsLine line ∧ (∃ i, line i = c) ∧
        Filled (Function.update cells c v) line v := by
  constructor
  · rintro ⟨line, hline, hf⟩
    by_cases hc : ∃ i, line i = c
    · obtain rfl := hf.update_eq hc
      exact ⟨rfl, line, hline, hc, hf⟩
    · have hne : ∀ i, line i ≠ c := fun i hi => hc ⟨i, hi⟩
      exact (hw (h line w hline ((filled_update_of_ne hne).1 hf))).elim
  · rintro ⟨rfl, line, hline, -, hf⟩
    exact ⟨line, hline, hf⟩

end Filled

end WebGameServer
