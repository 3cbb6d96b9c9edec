import Mathlib.Order.WellFounded
import WebGameServer.Library.Transition

namespace WebGameServer
set_option autoImplicit true

namespace LTS

/-- Each state is the one before or comes after it by a step. -/
def Advances {State Label : Type} (M : LTS State Label) (f : Nat → State) : Prop :=
  ∀ n, f (n + 1) = f n ∨ ∃ l, M.step (f n) l (f (n + 1))

/-- No step leaves `P` except to `Q`. -/
def Unless {State Label : Type} (M : LTS State Label) (P Q : State → Prop) : Prop :=
  ∀ {s l s'}, M.Reachable s → P s → ¬ Q s → M.step s l s' → P s' ∨ Q s'

end LTS

/-- An infinite run of a system, which may rest at any time. -/
structure Execution {State Label : Type} (M : LTS State Label) where
  state : Nat → State
  init : M.init (state 0)
  next : M.Advances state

/-- The action can be taken. -/
def Enabled {State : Type} (A : State → State → Prop) (s : State) : Prop := ∃ s', A s s'

namespace Execution

variable {State Label : Type} {M : LTS State Label} {x : Execution M} {P Q R S : State → Prop}
  {A B : State → State → Prop} {n m : Nat}

/-- The execution comes to such states again and again. -/
def Often (x : Execution M) (P : State → Prop) : Prop := ∀ n, ∃ m, n ≤ m ∧ P (x.state m)

/-- Strong fairness: an action that can be taken again and again is taken again and again. -/
def Fair (x : Execution M) (A : State → State → Prop) : Prop :=
  x.Often (Enabled A) → ∀ n, ∃ m, n ≤ m ∧ A (x.state m) (x.state (m + 1))

/-- After each state with `P`, or in it, comes one with `Q`. -/
def LeadsTo (x : Execution M) (P Q : State → Prop) : Prop :=
  ∀ n, P (x.state n) → ∃ m, n ≤ m ∧ Q (x.state m)

theorem reachable (x : Execution M) (n : Nat) : M.Reachable (x.state n) := by
  induction n with
  | zero => exact .init x.init
  | succ n ih =>
    rcases x.next n with he | ⟨l, h⟩
    · rw [he]
      exact ih
    · exact ih.step h

theorem LeadsTo.trans (h : x.LeadsTo P Q) (h' : x.LeadsTo Q R) : x.LeadsTo P R := by
  intro n hP
  obtain ⟨m, hm, hQ⟩ := h n hP
  obtain ⟨k, hk, hR⟩ := h' m hQ
  exact ⟨k, hm.trans hk, hR⟩

theorem LeadsTo.of_imp (h : ∀ {s}, M.Reachable s → P s → Q s) : x.LeadsTo P Q :=
  fun n hP => ⟨n, Nat.le_refl n, h (x.reachable n) hP⟩

theorem Often.leadsTo (h : x.Often Q) : x.LeadsTo P Q := fun n _ => h n

theorem holds_until (x : Execution M) (hunless : M.Unless P Q) (hP : P (x.state n)) (hm : n ≤ m) :
    (∃ k, n ≤ k ∧ Q (x.state k)) ∨ P (x.state m) := by
  induction m, hm using Nat.le_induction with
  | base => exact .inr hP
  | succ m hm ih =>
    rcases ih with hQ | hP
    · exact .inl hQ
    · by_cases hQ : Q (x.state m)
      · exact .inl ⟨m, hm, hQ⟩
      · rcases x.next m with he | ⟨l, h⟩
        · rw [he]
          exact .inr hP
        · rcases hunless (x.reachable m) hP hQ h with hP' | hQ'
          · exact .inr hP'
          · exact .inl ⟨m + 1, hm.trans (Nat.le_succ m), hQ'⟩

theorem exists_step (x : Execution M) (hm : n ≤ m) (hn : ¬ Q (x.state n)) (hQ : Q (x.state m)) :
    ∃ k l, n ≤ k ∧ k < m ∧ ¬ Q (x.state k) ∧ Q (x.state (k + 1)) ∧
      M.step (x.state k) l (x.state (k + 1)) := by
  induction m, hm using Nat.le_induction with
  | base => exact (hn hQ).elim
  | succ m hm ih =>
    by_cases hQm : Q (x.state m)
    · obtain ⟨k, l, hnk, hkm, hrest⟩ := ih hQm
      exact ⟨k, l, hnk, hkm.trans (Nat.lt_succ_self m), hrest⟩
    · rcases x.next m with he | ⟨l, h⟩
      · rw [he] at hQ
        exact (hQm hQ).elim
      · exact ⟨m, l, hm, Nat.lt_succ_self m, hQm, hQ, h⟩

theorem LeadsTo.while (h : x.LeadsTo P R) (hunless : M.Unless P Q) :
    x.LeadsTo P fun s => Q s ∨ P s ∧ R s := by
  intro n hP
  obtain ⟨m, hm, hR⟩ := h n hP
  rcases x.holds_until hunless hP hm with ⟨k, hk, hQ⟩ | hP'
  · exact ⟨k, hk, .inl hQ⟩
  · exact ⟨m, hm, .inr ⟨hP', hR⟩⟩

/-- A fair action leads from `P` to `Q` if no step on the way raises the rank, the action lowers
it, and the action can be taken again and again. -/
theorem leadsTo_of_rank {α : Type} [Preorder α] [WellFoundedLT α] (rank : State → α)
    (hfair : x.Fair A)
    (hstep : ∀ {s l s'}, M.Reachable s → P s → ¬ Q s → M.step s l s' →
      Q s' ∨ P s' ∧ rank s' ≤ rank s)
    (hact : ∀ {s s'}, M.Reachable s → P s → ¬ Q s → A s s' → Q s' ∨ rank s' < rank s)
    (henabled : x.LeadsTo P fun s => Q s ∨ Enabled A s) : x.LeadsTo P Q := by
  intro n hP
  by_contra hnone
  have never {m : Nat} (hm : n ≤ m) : ¬ Q (x.state m) := fun hQ => hnone ⟨m, hm, hQ⟩
  have kept {m : Nat} (hm : n ≤ m) :
      P (x.state m) ∧ ∀ k, m ≤ k → P (x.state k) ∧ rank (x.state k) ≤ rank (x.state m) := by
    have next {k : Nat} (hk : n ≤ k) (hPk : P (x.state k)) :
        P (x.state (k + 1)) ∧ rank (x.state (k + 1)) ≤ rank (x.state k) := by
      rcases x.next k with he | ⟨l, h⟩
      · rw [he]
        exact ⟨hPk, le_refl _⟩
      · exact (hstep (x.reachable k) hPk (never hk) h).resolve_left (never (by omega))
    have hPm : P (x.state m) := by
      induction m, hm using Nat.le_induction with
      | base => exact hP
      | succ m hm ih => exact (next hm ih).1
    refine ⟨hPm, fun k hk => ?_⟩
    induction k, hk using Nat.le_induction with
    | base => exact ⟨hPm, le_refl _⟩
    | succ k hk ih =>
      obtain ⟨hPk, hle⟩ := next (hm.trans hk) ih.1
      exact ⟨hPk, hle.trans ih.2⟩
  have often : x.Often (Enabled A) := by
    intro k
    have hk := Nat.le_max_left n k
    obtain ⟨m, hm, hQ | hA⟩ := henabled _ (kept hk).1
    · exact (never (hk.trans hm) hQ).elim
    · exact ⟨m, (Nat.le_max_right n k).trans hm, hA⟩
  -- The action is taken again and again, and each time lowers the rank for good.
  have descends (r : α) : ∀ m, n ≤ m → rank (x.state m) = r → False := by
    induction r using WellFoundedLT.induction with
    | ind r ih =>
      rintro m hm rfl
      obtain ⟨k, hk, hA⟩ := hfair often m
      obtain ⟨hPk, hle⟩ := (kept hm).2 k hk
      have hnk := hm.trans hk
      rcases hact (x.reachable k) hPk (never hnk) hA with hQ | hlt
      · exact never (by omega) hQ
      · exact ih _ (hlt.trans_le hle) (k + 1) (by omega) rfl
  exact descends _ n (Nat.le_refl n) rfl

/-- The same if the action can be taken in the states with `S`, to which the execution comes again
and again. -/
theorem leadsTo_of_rank_often {α : Type} [Preorder α] [WellFoundedLT α] (rank : State → α)
    (hfair : x.Fair A) (hoften : x.Often S)
    (hstep : ∀ {s l s'}, M.Reachable s → P s → ¬ Q s → M.step s l s' →
      Q s' ∨ P s' ∧ rank s' ≤ rank s)
    (hact : ∀ {s s'}, M.Reachable s → P s → ¬ Q s → A s s' → Q s' ∨ rank s' < rank s)
    (henabled : ∀ {s}, M.Reachable s → P s → ¬ Q s → S s → Enabled A s) : x.LeadsTo P Q := by
  apply leadsTo_of_rank rank hfair hstep hact
  have hunless : M.Unless P Q := fun hr hP hQ h => (hstep hr hP hQ h).symm.imp_left And.left
  apply (hoften.leadsTo.while hunless).trans
  apply LeadsTo.of_imp
  intro s hr h
  by_cases hQ : Q s
  · exact .inl hQ
  · obtain ⟨hP, hS⟩ := h.resolve_left hQ
    exact .inr (henabled hr hP hQ hS)

/-- What leads to `Q` again and again does so in the end, if `P` is kept until then. -/
theorem leadsTo_of_often (hunless : M.Unless P Q) (h : x.LeadsTo P R)
    (hoften : x.Often R → x.Often S) (h' : x.LeadsTo (fun s => P s ∧ S s) Q) : x.LeadsTo P Q := by
  intro n hP
  by_contra hnone
  have kept {m : Nat} (hm : n ≤ m) : P (x.state m) :=
    (x.holds_until hunless hP hm).resolve_left hnone
  have often : x.Often R := by
    intro k
    obtain ⟨m, hm, hR⟩ := h _ (kept (Nat.le_max_left n k))
    exact ⟨m, (Nat.le_max_right n k).trans hm, hR⟩
  obtain ⟨m, hm, hS⟩ := hoften often n
  obtain ⟨k, hk, hQ⟩ := h' m ⟨kept hm, hS⟩
  exact hnone ⟨k, hm.trans hk, hQ⟩

theorem Fair.of_disabled (h : ∀ m, n ≤ m → ¬ Enabled A (x.state m)) : x.Fair A := by
  intro hoften
  obtain ⟨m, hm, hA⟩ := hoften n
  exact (h m hm hA).elim

theorem Fair.of_cycle {s s' : State} (h : ∀ m, n ≤ m →
    x.state m = s ∧ x.state (m + 1) = s' ∨ x.state m = s' ∧ x.state (m + 1) = s)
    (hto : A s s') (hback : A s' s) : x.Fair A := by
  intro _ k
  apply Exists.intro (max k n)
  rcases h _ (Nat.le_max_right k n) with ⟨he, he'⟩ | ⟨he, he'⟩
  · rw [he, he']
    exact ⟨Nat.le_max_left k n, hto⟩
  · rw [he, he']
    exact ⟨Nat.le_max_left k n, hback⟩

theorem Fair.of_or (hfair : x.Fair fun s s' => A s s' ∨ B s s')
    (hkept : ∀ {s l s'}, M.Reachable s → Enabled A s → M.step s l s' → ¬ A s s' → Enabled A s')
    (hexcl : ∀ {s s'}, M.Reachable s → Enabled A s → ¬ B s s') : x.Fair A := by
  intro hoften n
  by_contra hnone
  have never {m : Nat} (hm : n ≤ m) : ¬ A (x.state m) (x.state (m + 1)) :=
    fun h => hnone ⟨m, hm, h⟩
  obtain ⟨m, hm, hen⟩ := hoften n
  have henabled (k : Nat) (hk : m ≤ k) : Enabled A (x.state k) := by
    induction k, hk using Nat.le_induction with
    | base => exact hen
    | succ k hk ih =>
      rcases x.next k with he | ⟨l, h⟩
      · rw [he]
        exact ih
      · exact hkept (x.reachable k) ih h (never (hm.trans hk))
  obtain ⟨k, hk, h⟩ := hfair (fun k => by
    obtain ⟨k', hk', s', h⟩ := hoften k
    exact ⟨k', hk', s', .inl h⟩) m
  rcases h with hA | hB
  · exact never (hm.trans hk) hA
  · exact hexcl (x.reachable k) (henabled k hk) hB

/-- A view of the states that turns each step into one step or none. -/
def map {State' Label' : Type} {M' : LTS State' Label'} (x : Execution M) (f : State → State')
    (hinit : ∀ {s}, M.init s → M'.init (f s))
    (hstep : ∀ {s l s'}, M.step s l s' → f s' = f s ∨ ∃ l', M'.step (f s) l' (f s')) :
    Execution M' where
  state n := f (x.state n)
  init := hinit x.init
  next n := by
    rcases x.next n with he | ⟨l, h⟩
    · exact .inl (congrArg f he)
    · exact hstep h

theorem Fair.map {State' Label' : Type} {M' : LTS State' Label'} {f : State → State'}
    {B : State' → State' → Prop} {y : Execution M'} (hfair : x.Fair A)
    (hy : ∀ n, y.state n = f (x.state n)) (hact : ∀ {s s'}, A s s' → B (f s) (f s'))
    (henabled : x.LeadsTo (fun s => Enabled B (f s)) (Enabled A)) : y.Fair B := by
  intro hoften n
  have hoften' : x.Often (Enabled A) := by
    intro k
    obtain ⟨m, hm, hB⟩ := hoften k
    rw [hy] at hB
    obtain ⟨m', hm', hA⟩ := henabled m hB
    exact ⟨m', hm.trans hm', hA⟩
  obtain ⟨m, hm, hA⟩ := hfair hoften' n
  refine ⟨m, hm, ?_⟩
  rw [hy, hy]
  exact hact hA

end Execution

namespace LTS

variable {State Label : Type} {M : LTS State Label} {s t t' u v : State} {l : Label}
  {ls ls' : List Label} {f : Nat → State}

theorem Run.rest (_ : M.Run s ls t) : M.Run t [] t := .nil

theorem Run.next (_ : M.Run s ls t) (h : M.step t l t') : M.step t l t' := h

theorem Run.prepend (h : M.Run s ls t) (hf : f 0 = t) (hnext : M.Advances f) :
    ∃ g, g 0 = s ∧ M.Advances g ∧ ∀ k, g (ls.length + k) = f k := by
  induction h with
  | nil => exact ⟨f, hf, hnext, fun k => by rw [List.length_nil, Nat.zero_add]⟩
  | @cons s l t ls u hs hr ih =>
    obtain ⟨g, hg, hadv, hfg⟩ := ih hf
    refine ⟨fun k => k.casesOn s g, rfl, fun k => ?_, fun k => ?_⟩
    · cases k with
      | zero =>
        have hs' : M.step s l (g 0) := by
          rw [hg]
          exact hs
        exact .inr ⟨l, hs'⟩
      | succ k => exact hadv k
    · rw [List.length_cons, Nat.succ_add]
      exact hfg k

theorem Run.lasso (h : M.Run s ls t) (hinit : M.init s) (hs : M.step t l t') (h' : M.Run t' ls' u)
    (hnext : v = u ∨ ∃ l, M.step u l v) (hback : u = v ∨ ∃ l, M.step v l u) :
    ∃ (x : Execution M) (n N : Nat), x.state n = t ∧ M.step (x.state n) l (x.state (n + 1)) ∧
      ∀ m, N ≤ m →
        x.state m = u ∧ x.state (m + 1) = v ∨ x.state m = v ∧ x.state (m + 1) = u := by
  have hcycle : M.Advances fun k => if k % 2 = 0 then u else v := by
    intro k
    rcases Nat.mod_two_eq_zero_or_one k with hk | hk
    · have hk' : ¬ (k + 1) % 2 = 0 := by omega
      simp only [hk, hk', ↓reduceIte]
      exact hnext
    · have hk' : (k + 1) % 2 = 0 := by omega
      simp only [hk, hk', ↓reduceIte, Nat.one_ne_zero]
      exact hback
  obtain ⟨f, hf, hadv, hend⟩ := h'.prepend rfl hcycle
  obtain ⟨g', hg', hadv', hmid⟩ := (Run.cons hs .nil).prepend hf hadv
  obtain ⟨g, hg, hadv'', hrun⟩ := h.prepend hg' hadv'
  have hn : g ls.length = t := (hrun 0).trans hg'
  have hn' : g (ls.length + 1) = t' := ((hrun 1).trans (hmid 0)).trans hf
  have hstep : M.step (g ls.length) l (g (ls.length + 1)) := by
    rw [hn, hn']
    exact hs
  refine ⟨⟨g, hg ▸ hinit, hadv''⟩, ls.length, ls.length + (1 + ls'.length), hn, hstep,
    fun m hm => ?_⟩
  obtain ⟨k, rfl⟩ := Nat.exists_eq_add_of_le hm
  have hstate (k : Nat) :
      g (ls.length + (1 + ls'.length) + k) = if k % 2 = 0 then u else v := by
    rw [Nat.add_assoc, hrun, Nat.add_assoc, ← List.length_singleton, hmid, hend]
  have hnow := hstate k
  have hthen := hstate (k + 1)
  rcases Nat.mod_two_eq_zero_or_one k with hk | hk
  · have hk' : ¬ (k + 1) % 2 = 0 := by omega
    rw [if_pos hk] at hnow
    rw [if_neg hk'] at hthen
    exact .inl ⟨hnow, hthen⟩
  · have hk' : (k + 1) % 2 = 0 := by omega
    rw [if_neg (by omega)] at hnow
    rw [if_pos hk'] at hthen
    exact .inr ⟨hnow, hthen⟩

end LTS

end WebGameServer
