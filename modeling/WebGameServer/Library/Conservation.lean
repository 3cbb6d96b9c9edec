import Mathlib.Algebra.BigOperators.Group.Finset.Basic
import WebGameServer.Library.Transition

namespace WebGameServer
set_option autoImplicit true

namespace LTS

variable {State Label Note A : Type} {M : LTS State Label}
  {notes : State → Label → State → List Note → Prop}

/-- What has entered a system has left it or is inside. In a monoid that does not commute, it
leaves in the order in which it has entered. -/
theorem Traced.conserved [AddMonoid A] (content : State → A) (entered left : List Note → A)
    (h : M.Traced notes tr s) (hentered : entered [] = 0) (hleft : left [] = 0)
    (hentered_append : ∀ a b, entered (a ++ b) = entered a + entered b)
    (hleft_append : ∀ a b, left (a ++ b) = left a + left b)
    (hinit : ∀ {s}, M.init s → content s = 0)
    (hstep : ∀ {s l s' ns}, M.step s l s' → notes s l s' ns →
      content s + entered ns = left ns + content s') :
    entered tr = left tr + content s := by
  apply h.invariant (J := fun tr s => entered tr = left tr + content s)
  · intro s h0
    rw [hentered, hleft, hinit h0, add_zero]
  · intro tr s l s' ns hr htr hs hn
    rw [hentered_append, htr, add_assoc, hstep hs hn, ← add_assoc, hleft_append]

end LTS

theorem sum_update_add {ι A B : Type} [Fintype ι] [DecidableEq ι] [AddCommMonoid A]
    (f : ι → B) (g : B → A) (i : ι) (b : B) :
    ∑ j, g (Function.update f i b j) + g (f i) = ∑ j, g (f j) + g b := by
  have hother : ∑ j ∈ Finset.univ.erase i, g (Function.update f i b j) =
      ∑ j ∈ Finset.univ.erase i, g (f j) := by
    apply Finset.sum_congr rfl
    intro j hj
    rw [Function.update_of_ne (Finset.ne_of_mem_erase hj)]
  have hold := Finset.add_sum_erase Finset.univ (fun j => g (f j)) (Finset.mem_univ i)
  rw [← hold, ← Finset.add_sum_erase _ _ (Finset.mem_univ i), hother, Function.update_self,
    add_right_comm, add_comm (g b), add_right_comm]

theorem exchange [AddCancelCommMonoid A] {threads threads' mine mine' store store' given : A}
    (hthreads : threads' + mine = threads + mine')
    (hmine : mine + store = given + (mine' + store')) :
    threads + store = given + (threads' + store') := by
  apply add_right_cancel (b := mine + mine')
  calc threads + store + (mine + mine') = (threads + mine') + (mine + store) := by ac_rfl
    _ = (threads' + mine) + (given + (mine' + store')) := by rw [hthreads, hmine]
    _ = given + (threads' + store') + (mine + mine') := by ac_rfl

end WebGameServer
