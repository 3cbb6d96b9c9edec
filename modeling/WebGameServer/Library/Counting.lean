import Mathlib.Algebra.BigOperators.Group.Finset.Piecewise
import Mathlib.Algebra.Order.BigOperators.Group.Finset

namespace WebGameServer
set_option autoImplicit true

namespace Counting

variable {Thread Pc : Type} [Fintype Thread]

theorem sum_update [DecidableEq Thread] (f : Pc → Nat) (pc : Thread → Pc) (t : Thread) (p : Pc) :
    f (pc t) + ∑ u, f (Function.update pc t p u) = f p + ∑ u, f (pc u) := by
  have hold := Finset.add_sum_erase Finset.univ (fun u => f (pc u)) (Finset.mem_univ t)
  have hnew := Finset.add_sum_erase Finset.univ (fun u => f (Function.update pc t p u))
    (Finset.mem_univ t)
  have hrest : ∑ u ∈ Finset.univ.erase t, f (Function.update pc t p u) =
      ∑ u ∈ Finset.univ.erase t, f (pc u) :=
    Finset.sum_congr rfl fun u hu => by
      rw [Function.update_of_ne (Finset.ne_of_mem_erase hu)]
  simp only [Function.update_self] at hnew
  omega

theorem le_sum (f : Thread → Nat) (t : Thread) : f t ≤ ∑ u, f u :=
  Finset.single_le_sum (fun _ _ => Nat.zero_le _) (Finset.mem_univ t)

theorem add_le_sum [DecidableEq Thread] (f : Thread → Nat) {t u : Thread} (h : t ≠ u) :
    f t + f u ≤ ∑ v, f v := by
  have ht := Finset.add_sum_erase Finset.univ f (Finset.mem_univ t)
  have hu : f u ≤ ∑ v ∈ Finset.univ.erase t, f v :=
    Finset.single_le_sum (fun _ _ => Nat.zero_le _)
      (Finset.mem_erase.2 ⟨h.symm, Finset.mem_univ u⟩)
  omega

end Counting

end WebGameServer
