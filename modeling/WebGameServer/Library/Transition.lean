import Mathlib.Logic.Relation

namespace WebGameServer
set_option autoImplicit true

/-- A labelled transition system with a set of initial states. -/
structure LTS (State Label : Type) where
  init : State → Prop
  step : State → Label → State → Prop

namespace LTS

variable {State Label : Type} {M N : LTS State Label}

/-- The states that some finite run of the system visits. -/
inductive Reachable (M : LTS State Label) : State → Prop where
  | init : M.init s → Reachable M s
  | step : Reachable M s → M.step s l s' → Reachable M s'

/-- Finite runs between two states, with the labels they emit in order. -/
inductive Run (M : LTS State Label) : State → List Label → State → Prop where
  | nil : Run M s [] s
  | cons : M.step s l t → Run M t ls u → Run M s (l :: ls) u

/-- The system that takes only the steps meeting a side condition. -/
def restrict (M : LTS State Label) (C : State → Label → State → Prop) : LTS State Label where
  init := M.init
  step s l s' := M.step s l s' ∧ C s l s'

/-- A property that holds initially and that every step from a reachable state keeps. -/
structure Invariant (M : LTS State Label) (I : State → Prop) : Prop where
  init : ∀ {s}, M.init s → I s
  step : ∀ {s l s'}, M.Reachable s → I s → M.step s l s' → I s'

theorem Invariant.reachable (h : M.Invariant I) (hr : M.Reachable s) : I s := by
  induction hr with
  | init h0 => exact h.init h0
  | step hr hs ih => exact h.step hr ih hs

theorem Reachable.run (h : M.Reachable s) (hr : M.Run s ls t) : M.Reachable t := by
  induction hr with
  | nil => exact h
  | cons hs hr ih => exact ih (h.step hs)

theorem Run.snoc (hr : M.Run s ls t) (h : M.step t l u) : M.Run s (ls ++ [l]) u := by
  induction hr with
  | nil => exact .cons h .nil
  | cons hs hr ih => exact .cons hs (ih h)

/-- A run keeps what each of its steps keeps, and shows what each of its steps shows. -/
theorem Run.preserves {I : State → Prop} {P : Label → Prop} (hr : M.Run s ls t)
    (h : M.Reachable s)
    (hstep : ∀ {u l v}, M.Reachable u → I u → M.step u l v → I v ∧ P l) (hs : I s) :
    I t ∧ ∀ l ∈ ls, P l := by
  induction hr with
  | nil => exact ⟨hs, fun l hl => nomatch hl⟩
  | cons hst hr ih =>
    have hI := hstep h hs hst
    obtain ⟨ht, hls⟩ := ih (h.step hst) hI.1
    exact ⟨ht, List.forall_mem_cons.2 ⟨hI.2, hls⟩⟩

/-- A value computed from the labels of a run, related to the states it visits. -/
theorem Run.fold {A : Type} {f : A → Label → A} {I : A → State → Prop} {a : A}
    (hr : M.Run s ls t)
    (hstep : ∀ {a u l v}, l ∈ ls → I a u → M.step u l v → I (f a l) v) (hs : I a s) :
    I (ls.foldl f a) t := by
  induction hr generalizing a with
  | nil => exact hs
  | cons hst hr ih =>
    have ht := hstep List.mem_cons_self hs hst
    exact ih (fun hl => hstep (List.mem_cons_of_mem _ hl)) ht

theorem Reachable.entered {I : State → Prop} (h : M.Reachable s) (hinit : ∀ {s}, M.init s → ¬ I s)
    (hI : I s) : ∃ u l v ls, M.Reachable u ∧ ¬ I u ∧ M.step u l v ∧ I v ∧ M.Run v ls s := by
  induction h with
  | init h0 => exact (hinit h0 hI).elim
  | @step t l s hr hs ih =>
    by_cases ht : I t
    · obtain ⟨u, l', v, ls, hu, hnot, hstep, hv, hrun⟩ := ih ht
      exact ⟨u, l', v, ls ++ [l], hu, hnot, hstep, hv, hrun.snoc hs⟩
    · exact ⟨t, l, s, [], hr, ht, hs, hI, .nil⟩

theorem Run.of_restrict (h : (M.restrict C).Run s ls t) : M.Run s ls t := by
  induction h with
  | nil => exact .nil
  | cons hs hr ih => exact .cons hs.1 ih

theorem Reachable.of_restrict (h : (M.restrict C).Reachable s) : M.Reachable s := by
  induction h with
  | init h0 => exact .init h0
  | step hr hs ih => exact ih.step hs.1

/-- A side condition on the states that the steps lead to holds of every reachable state. -/
theorem Reachable.holds {Q : State → Prop} (h : (M.restrict fun _ _ s' => Q s').Reachable s)
    (hinit : ∀ {s}, M.init s → Q s) : Q s := by
  cases h with
  | init h0 => exact hinit h0
  | step hr hs => exact hs.2

theorem Reachable.weaken {C D : State → Label → State → Prop}
    (h : (M.restrict C).Reachable s)
    (hCD : ∀ {u l v}, M.Reachable u → M.step u l v → C u l v → D u l v) :
    (M.restrict D).Reachable s := by
  induction h with
  | init h0 => exact .init h0
  | step hr hs ih => exact ih.step ⟨hs.1, hCD hr.of_restrict hs.1 hs.2⟩

/-- The states that some finite run of the system visits, with what an observer notes of the
steps of the run, in order. -/
inductive Traced {Note : Type} (M : LTS State Label)
    (notes : State → Label → State → List Note → Prop) : List Note → State → Prop where
  | init : M.init s → Traced M notes [] s
  | step : Traced M notes tr s → M.step s l s' → notes s l s' ns →
      Traced M notes (tr ++ ns) s'

section Traced

variable {Note : Type} {notes : State → Label → State → List Note → Prop}

theorem Traced.reachable (h : M.Traced notes tr s) : M.Reachable s := by
  induction h with
  | init h0 => exact .init h0
  | step ht hs hn ih => exact ih.step hs

/-- An observer that has a note for each step has notes for each reachable state. -/
theorem Reachable.traced (h : M.Reachable s)
    (htotal : ∀ {s l s'}, M.step s l s' → ∃ ns, notes s l s' ns) :
    ∃ tr, M.Traced notes tr s := by
  induction h with
  | init h0 => exact ⟨[], .init h0⟩
  | step hr hs ih =>
    obtain ⟨tr, ht⟩ := ih
    obtain ⟨ns, hn⟩ := htotal hs
    exact ⟨tr ++ ns, ht.step hs hn⟩

theorem Traced.invariant {J : List Note → State → Prop} (h : M.Traced notes tr s)
    (hinit : ∀ {s}, M.init s → J [] s)
    (hstep : ∀ {tr s l s' ns}, M.Reachable s → J tr s → M.step s l s' → notes s l s' ns →
      J (tr ++ ns) s') : J tr s := by
  induction h with
  | init h0 => exact hinit h0
  | step ht hs hn ih => exact hstep ht.reachable ih hs hn

end Traced

/-- Simulation: a view of the states that turns each step into one step or none. -/
theorem Reachable.project {State' Label' : Type} {M' : LTS State' Label'}
    {f : State → State'} (hinit : ∀ {s}, M.init s → M'.init (f s))
    (hstep : ∀ {s l s'}, M.Reachable s → M.step s l s' →
      f s' = f s ∨ ∃ l', M'.step (f s) l' (f s'))
    (h : M.Reachable s) : M'.Reachable (f s) := by
  induction h with
  | init h0 => exact .init (hinit h0)
  | step hr hs ih =>
    rcases hstep hr hs with he | ⟨l', hs'⟩
    · exact he ▸ ih
    · exact ih.step hs'

/-- Every state of a system is the view of a state of a system that can follow each step. -/
theorem Reachable.lift {State' Label' : Type} {M' : LTS State' Label'} {f : State' → State}
    (hinit : ∀ {s}, M.init s → ∃ s', M'.init s' ∧ f s' = s)
    (hstep : ∀ {s' l t}, M.step (f s') l t → ∃ l' t', M'.step s' l' t' ∧ f t' = t)
    (h : M.Reachable s) : ∃ s', M'.Reachable s' ∧ f s' = s := by
  induction h with
  | init h0 =>
    obtain ⟨s', h', he⟩ := hinit h0
    exact ⟨s', .init h', he⟩
  | step hr hs ih =>
    obtain ⟨s', h', rfl⟩ := ih
    obtain ⟨l', t', ht, he⟩ := hstep hs
    exact ⟨t', h'.step ht, he⟩

end LTS

end WebGameServer
