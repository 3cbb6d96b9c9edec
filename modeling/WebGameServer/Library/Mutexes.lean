import Mathlib.Logic.Function.Basic
import Mathlib.Logic.Relation
import WebGameServer.Library.Transition

namespace WebGameServer
set_option autoImplicit true

/-- Threads whose steps are sections under mutexes. Between two sections a thread is at a
program point, at which it may keep mutexes. -/
structure Sections (State Thread Mutex Label : Type) where
  Point : Type
  point : State → Thread → Point
  keeps : Point → List Mutex
  init : State → Prop
  -- The thread may start a section that acquires these mutexes, in this order.
  begins : State → Thread → List Mutex → Prop
  -- What the thread does in the section once it has the mutexes.
  step : State → Thread → List Mutex → Label → State → Prop
  init_keeps : ∀ s t, init s → keeps (point s t) = []
  frame : ∀ s t ms l s' u, step s t ms l s' → u ≠ t → point s' u = point s u

/-- Where a thread is in its section. -/
inductive Phase (Mutex : Type) where
  | ready
  | acquiring (got todo : List Mutex)
  | releasing

/-- A state together with the owners of the mutexes. -/
structure Locked (State Thread Mutex : Type) where
  state : State
  owner : Mutex → Option Thread
  phase : Thread → Phase Mutex

namespace Locked

variable {State Thread Mutex : Type} {σ : Locked State Thread Mutex}

/-- The thread is about to acquire the mutex. -/
def WaitsFor (σ : Locked State Thread Mutex) (t : Thread) (m : Mutex) : Prop :=
  ∃ got todo, σ.phase t = .acquiring got (m :: todo)

def BlockedBy (σ : Locked State Thread Mutex) (t u : Thread) : Prop :=
  ∃ m, σ.WaitsFor t m ∧ σ.owner m = some u

/-- A cycle of threads, each waiting for a mutex that the next one holds. -/
def Deadlocked (σ : Locked State Thread Mutex) : Prop :=
  ∃ t, Relation.TransGen σ.BlockedBy t t

theorem WaitsFor.unique (h : σ.WaitsFor t m) (h' : σ.WaitsFor t m') : m = m' := by
  obtain ⟨got, todo, hp⟩ := h
  obtain ⟨got', todo', hp'⟩ := h'
  rw [hp] at hp'
  cases hp'
  rfl

/-- Along a path of blocked threads whose end is blocked by a waiting thread, the rank of
the mutexes grows. -/
theorem rank_lt_of_path (rank : Mutex → Nat)
    (h : ∀ t u v m m', σ.WaitsFor t m → σ.owner m = some u → σ.WaitsFor u m' →
      σ.owner m' = some v → (∃ n, σ.WaitsFor v n) → rank m < rank m')
    (hp : Relation.TransGen σ.BlockedBy t u) (hm : σ.WaitsFor t m) (hm' : σ.WaitsFor u m')
    (hv : σ.owner m' = some v) (hw : ∃ n, σ.WaitsFor v n) : rank m < rank m' := by
  induction hp generalizing m' v with
  | single hb =>
    obtain ⟨n, hn, ho⟩ := hb
    cases hm.unique hn
    exact h _ _ _ m m' hm ho hm' hv hw
  | tail hp hb ih =>
    obtain ⟨n, hn, ho⟩ := hb
    have hlt := ih hn ho ⟨m', hm'⟩
    exact Nat.lt_trans hlt (h _ _ _ n m' hn ho hm' hv hw)

/-- Without a cycle in the order of the mutexes there is none of the threads. -/
theorem not_deadlocked_of_rank (rank : Mutex → Nat)
    (h : ∀ t u v m m', σ.WaitsFor t m → σ.owner m = some u → σ.WaitsFor u m' →
      σ.owner m' = some v → (∃ n, σ.WaitsFor v n) → rank m < rank m') : ¬ σ.Deadlocked := by
  rintro ⟨t, hp⟩
  obtain ⟨u, ⟨m, hm, ho⟩, hrest⟩ := Relation.TransGen.head'_iff.1 hp
  have hu : ∃ n, σ.WaitsFor u n := by
    rcases Relation.ReflTransGen.cases_head hrest with rfl | ⟨v, ⟨n, hn, _⟩, _⟩
    · exact ⟨m, hm⟩
    · exact ⟨n, hn⟩
  exact Nat.lt_irrefl _ (rank_lt_of_path rank h hp hm hm ho hu)

end Locked

namespace Sections

variable {State Thread Mutex Label : Type} [DecidableEq Thread] [DecidableEq Mutex]

/-- Every acquisition and every release of a mutex is a step of its own. -/
inductive MutexStep (S : Sections State Thread Mutex Label) :
    Locked State Thread Mutex → Option Label → Locked State Thread Mutex → Prop where
  | begin (t : Thread) (ms : List Mutex) : σ.phase t = .ready →
      S.begins σ.state t ms →
      MutexStep S σ none { σ with phase := Function.update σ.phase t (.acquiring [] ms) }
  | acquire (t : Thread) (m : Mutex) : σ.phase t = .acquiring got (m :: todo) →
      σ.owner m = none →
      MutexStep S σ none
        { σ with
          owner := Function.update σ.owner m (some t)
          phase := Function.update σ.phase t (.acquiring (got ++ [m]) todo) }
  | perform (t : Thread) : σ.phase t = .acquiring got [] → S.step σ.state t got l s →
      MutexStep S σ (some l)
        { σ with state := s, phase := Function.update σ.phase t .releasing }
  | release (t : Thread) (m : Mutex) : σ.phase t = .releasing → σ.owner m = some t →
      m ∉ S.keeps (S.point σ.state t) →
      MutexStep S σ none { σ with owner := Function.update σ.owner m none }
  | done (t : Thread) : σ.phase t = .releasing →
      (∀ m, σ.owner m = some t → m ∈ S.keeps (S.point σ.state t)) →
      MutexStep S σ none { σ with phase := Function.update σ.phase t .ready }

variable (S : Sections State Thread Mutex Label)

/-- The threads interleaved at their acquisitions and releases. -/
def interleaving : LTS (Locked State Thread Mutex) (Option Label) where
  init σ := S.init σ.state ∧ (∀ m, σ.owner m = none) ∧ ∀ t, σ.phase t = .ready
  step := S.MutexStep

/-- What a thread owns, and what holds of the section that it has started. -/
def Owned (P : Thread → S.Point → List Mutex → Prop) (σ : Locked State Thread Mutex)
    (t : Thread) : Prop :=
  match σ.phase t with
  | .ready => ∀ m, σ.owner m = some t → m ∈ S.keeps (S.point σ.state t)
  | .acquiring got todo =>
    P t (S.point σ.state t) (got ++ todo) ∧
      ∀ m, σ.owner m = some t → m ∈ S.keeps (S.point σ.state t) ∨ m ∈ got
  | .releasing => True

variable {S} {P : Thread → S.Point → List Mutex → Prop} {σ σ' : Locked State Thread Mutex}

omit [DecidableEq Thread] [DecidableEq Mutex] in
theorem Owned.mono (h : S.Owned P σ t) (hphase : σ'.phase t = σ.phase t)
    (hpoint : S.point σ'.state t = S.point σ.state t)
    (howner : ∀ m, σ'.owner m = some t → σ.owner m = some t) : S.Owned P σ' t := by
  unfold Owned at h ⊢
  rw [hphase, hpoint]
  cases hp : σ.phase t with
  | ready =>
    simp only [hp] at h
    exact fun m ho => h m (howner m ho)
  | acquiring got todo =>
    simp only [hp] at h
    exact ⟨h.1, fun m ho => h.2 m (howner m ho)⟩
  | releasing => trivial

theorem Owned.step (hbegin : ∀ t ms, S.begins σ.state t ms → P t (S.point σ.state t) ms)
    (hσ : ∀ t, S.Owned P σ t) (h : S.MutexStep σ l σ') (u : Thread) : S.Owned P σ' u := by
  have hu := hσ u
  cases h with
  | begin t ms hp hb =>
    by_cases hut : u = t
    · subst hut
      simp only [Owned, hp, Function.update_self, List.nil_append] at hu ⊢
      exact ⟨hbegin _ _ hb, fun m ho => .inl (hu m ho)⟩
    · exact hu.mono (Function.update_of_ne hut _ _) rfl fun _ => id
  | acquire t m hp hn =>
    by_cases hut : u = t
    · subst hut
      simp only [Owned, hp, Function.update_self, List.append_assoc, List.cons_append,
        List.nil_append, List.mem_append, List.mem_singleton] at hu ⊢
      refine ⟨hu.1, fun m' ho => ?_⟩
      by_cases hm : m' = m
      · exact .inr (.inr hm)
      · rw [Function.update_of_ne hm] at ho
        exact (hu.2 m' ho).imp_right .inl
    · refine hu.mono (Function.update_of_ne hut _ _) rfl fun m' ho => ?_
      by_cases hm : m' = m
      · subst hm
        simp only [Function.update_self, Option.some.injEq] at ho
        exact (hut ho.symm).elim
      · simpa only [Function.update_of_ne hm] using ho
  | perform t hp hs =>
    by_cases hut : u = t
    · subst hut
      simp only [Owned, Function.update_self]
    · exact hu.mono (Function.update_of_ne hut _ _) (S.frame _ _ _ _ _ _ hs hut) fun _ => id
  | release t m hp ho hk =>
    refine hu.mono rfl rfl fun m' ho' => ?_
    by_cases hm : m' = m
    · subst hm
      simp only [Function.update_self, reduceCtorEq] at ho'
    · simpa only [Function.update_of_ne hm] using ho'
  | done t hp hk =>
    by_cases hut : u = t
    · subst hut
      simpa only [Owned, Function.update_self] using hk
    · exact hu.mono (Function.update_of_ne hut _ _) rfl fun _ => id

/-- The sections as atomic steps. -/
def atomic (S : Sections State Thread Mutex Label) : LTS State Label where
  init := S.init
  step s l s' := ∃ t ms, S.step s t ms l s'

theorem reachable_atomic (h : S.interleaving.Reachable σ) : S.atomic.Reachable σ.state := by
  refine h.project And.left fun _ hs => ?_
  cases hs with
  | perform t hp hs => exact .inr ⟨_, t, _, hs⟩
  | _ => exact .inl rfl

theorem owned_invariant
    (hbegin : ∀ s t ms, S.atomic.Reachable s → S.begins s t ms → P t (S.point s t) ms) :
    S.interleaving.Invariant fun σ => ∀ t, S.Owned P σ t where
  init := by
    rintro σ ⟨hinit, hn, hp⟩ t
    simp only [Owned, hp, hn, reduceCtorEq, false_implies, implies_true]
  step hr hσ h := Owned.step (fun t ms => hbegin _ t ms (reachable_atomic hr)) hσ h

/-- Each mutex of the list may be acquired while holding the given ones and those before it. -/
def InOrder (nests : Mutex → Mutex → Prop) : List Mutex → List Mutex → Prop
  | _, [] => True
  | held, m :: todo => (∀ h ∈ held, nests h m) ∧ InOrder nests (m :: held) todo

omit [DecidableEq Mutex] in
theorem InOrder.nests {nests : Mutex → Mutex → Prop} {held got todo : List Mutex}
    (h : InOrder nests held (got ++ m :: todo)) (hm : n ∈ held ∨ n ∈ got) : nests n m := by
  induction got generalizing held with
  | nil =>
    rcases hm with hm | hm
    · exact h.1 n hm
    · cases hm
  | cons k got ih =>
    apply ih h.2
    rcases hm with hm | hm
    · exact .inl (List.mem_cons_of_mem _ hm)
    · rcases List.mem_cons.1 hm with rfl | hm
      · exact .inl List.mem_cons_self
      · exact .inr hm

omit [DecidableEq Mutex] in
theorem inOrder_of_length {nests : Mutex → Mutex → Prop} (h : ms.length ≤ 1) :
    InOrder nests [] ms := by
  cases ms with
  | nil => trivial
  | cons m ms =>
    obtain rfl : ms = [] := List.eq_nil_of_length_eq_zero (Nat.le_zero.1 (Nat.le_of_succ_le_succ h))
    exact ⟨List.forall_mem_nil _, trivial⟩

/-- A waiting thread owns only mutexes under which the awaited one may be acquired. -/
theorem nests_of_waiting (nests : Thread → S.Point → Mutex → Mutex → Prop)
    (hbegin : ∀ s t ms, S.atomic.Reachable s → S.begins s t ms →
      InOrder (nests t (S.point s t)) (S.keeps (S.point s t)) ms)
    (hr : S.interleaving.Reachable σ) (hw : σ.WaitsFor t m) (ho : σ.owner n = some t) :
    nests t (S.point σ.state t) n m := by
  have hσ := (owned_invariant (P := fun t pt ms => InOrder (nests t pt) (S.keeps pt) ms)
    hbegin).reachable hr t
  obtain ⟨got, todo, hp⟩ := hw
  simp only [Owned, hp] at hσ
  exact hσ.1.nests (hσ.2 n ho)

/-- No thread is in a section, and each owns what it keeps at its program point. -/
structure Settled (S : Sections State Thread Mutex Label) (σ : Locked State Thread Mutex) :
    Prop where
  ready : ∀ t, σ.phase t = .ready
  owner : ∀ m t, σ.owner m = some t ↔ m ∈ S.keeps (S.point σ.state t)

theorem settled_start (h : S.interleaving.init σ) : S.Settled σ := by
  obtain ⟨hinit, hn, hp⟩ := h
  refine ⟨hp, fun m t => ?_⟩
  simp only [hn, S.init_keeps _ t hinit, reduceCtorEq, List.not_mem_nil]

theorem acquire_all (h : S.interleaving.Reachable σ) (hp : σ.phase t = .acquiring got todo)
    (hn : todo.Nodup) (hfree : ∀ m ∈ todo, σ.owner m = none) :
    ∃ σ', S.interleaving.Reachable σ' ∧ σ'.state = σ.state ∧
      σ'.phase = Function.update σ.phase t (.acquiring (got ++ todo) []) ∧
      ∀ m, σ'.owner m = if m ∈ todo then some t else σ.owner m := by
  induction todo generalizing got σ with
  | nil =>
    refine ⟨σ, h, rfl, ?_, fun m => by simp only [List.not_mem_nil, ↓reduceIte]⟩
    rw [List.append_nil, ← hp, Function.update_eq_self]
  | cons m todo ih =>
    obtain ⟨hm, hn⟩ := List.nodup_cons.1 hn
    have hs := h.step (.acquire t m hp (hfree m List.mem_cons_self))
    obtain ⟨σ', hr, hstate, hphase, howner⟩ := ih hs (Function.update_self _ _ _) hn
      fun m' hm' => (Function.update_of_ne (ne_of_mem_of_not_mem hm' hm) _ _).trans
        (hfree m' (List.mem_cons_of_mem _ hm'))
    refine ⟨σ', hr, hstate, ?_, fun m' => ?_⟩
    · rw [hphase, Function.update_idem, List.append_assoc, List.singleton_append]
    · simp only [howner, List.mem_cons]
      by_cases he : m' = m
      · subst he
        simp only [hm, ↓reduceIte, Function.update_self, true_or]
      · simp only [he, false_or, Function.update_of_ne he]

theorem release_all (h : S.interleaving.Reachable σ) (hp : σ.phase t = .releasing)
    (ms : List Mutex) :
    ∃ σ', S.interleaving.Reachable σ' ∧ σ'.state = σ.state ∧ σ'.phase = σ.phase ∧
      ∀ m, σ'.owner m =
        if m ∈ ms ∧ σ.owner m = some t ∧ m ∉ S.keeps (S.point σ.state t) then none
        else σ.owner m := by
  induction ms generalizing σ with
  | nil => exact ⟨σ, h, rfl, rfl, fun m => by simp only [List.not_mem_nil, false_and, ↓reduceIte]⟩
  | cons n ms ih =>
    by_cases hn : σ.owner n = some t ∧ n ∉ S.keeps (S.point σ.state t)
    · have hs := h.step (.release t n hp hn.1 hn.2)
      obtain ⟨σ', hr, hstate, hphase, howner⟩ := ih hs hp
      refine ⟨σ', hr, hstate, hphase, fun m => ?_⟩
      simp only [howner, List.mem_cons]
      by_cases he : m = n
      · subst he
        simp only [Function.update_self, reduceCtorEq, false_and, and_false, ↓reduceIte, true_or,
          hn.1, hn.2, not_false_eq_true, and_self]
      · simp only [Function.update_of_ne he, he, false_or]
    · obtain ⟨σ', hr, hstate, hphase, howner⟩ := ih h hp
      refine ⟨σ', hr, hstate, hphase, fun m => ?_⟩
      simp only [howner, List.mem_cons]
      by_cases he : m = n
      · subst he
        simp only [hn, and_false, ↓reduceIte]
      · simp only [he, false_or]

omit [DecidableEq Thread] [DecidableEq Mutex] in
theorem Settled.owner_eq_none (hσ : S.Settled σ)
    (h : ∀ u, m ∉ S.keeps (S.point σ.state u)) : σ.owner m = none := by
  cases ho : σ.owner m with
  | none => rfl
  | some u => exact (h u ((hσ.owner m u).1 ho)).elim

section Owners

variable {owner owner' : Mutex → Option Thread} {t u : Thread} {ms held kept : List Mutex}

omit [DecidableEq Thread] in
theorem acquired_self (h : ∀ m, owner' m = if m ∈ ms then some t else owner m) (m : Mutex) :
    owner' m = some t ↔ owner m = some t ∨ m ∈ ms := by
  rw [h]
  by_cases hm : m ∈ ms
  · simp only [hm, ↓reduceIte, or_true]
  · simp only [hm, ↓reduceIte, or_false]

omit [DecidableEq Thread] in
theorem acquired_other (h : ∀ m, owner' m = if m ∈ ms then some t else owner m)
    (hfree : ∀ m ∈ ms, owner m = none) (hut : u ≠ t) (m : Mutex) :
    owner' m = some u ↔ owner m = some u := by
  rw [h]
  by_cases hm : m ∈ ms
  · simp only [hm, ↓reduceIte, hfree m hm, Option.some.injEq, hut.symm, reduceCtorEq]
  · simp only [hm, ↓reduceIte]

theorem released_self
    (h : ∀ m, owner' m = if m ∈ held ∧ owner m = some t ∧ m ∉ kept then none else owner m)
    (hheld : ∀ m, owner m = some t ↔ m ∈ held) (hk : kept ⊆ held) (m : Mutex) :
    owner' m = some t ↔ m ∈ kept := by
  rw [h]
  by_cases hm : m ∈ kept
  · simp only [hm, hheld, hk hm, not_true_eq_false, and_false, ↓reduceIte]
  · by_cases hm' : m ∈ held
    · simp only [hm, hheld, hm', not_false_eq_true, and_self, ↓reduceIte, reduceCtorEq]
    · simp only [hm, hheld, hm', false_and, ↓reduceIte]

theorem released_other
    (h : ∀ m, owner' m = if m ∈ held ∧ owner m = some t ∧ m ∉ kept then none else owner m)
    (hut : u ≠ t) (m : Mutex) : owner' m = some u ↔ owner m = some u := by
  rw [h]
  split
  · next hm => simp only [hm.2.1, Option.some.injEq, hut.symm, reduceCtorEq]
  · rfl

end Owners

theorem Settled.section (hσ : S.Settled σ) (hr : S.interleaving.Reachable σ)
    (hb : S.begins σ.state t ms) (hs : S.step σ.state t ms l s) (hn : ms.Nodup)
    (hfree : ∀ m ∈ ms, ∀ u, m ∉ S.keeps (S.point σ.state u))
    (hk : S.keeps (S.point s t) ⊆ S.keeps (S.point σ.state t) ++ ms) :
    ∃ σ', S.interleaving.Reachable σ' ∧ S.Settled σ' ∧ σ'.state = s := by
  have hnone : ∀ m ∈ ms, σ.owner m = none := fun m hm => hσ.owner_eq_none (hfree m hm)
  have h1 := hr.step (.begin t ms (hσ.ready t) hb)
  obtain ⟨σ₂, h2, hstate₂, hphase₂, howner₂⟩ :=
    acquire_all h1 (Function.update_self _ _ _) hn hnone
  have h3 := h2.step
    (.perform t (by rw [hphase₂, Function.update_self, List.nil_append]) (hstate₂ ▸ hs))
  obtain ⟨σ₄, h4, hstate₄, hphase₄, howner₄⟩ :=
    release_all h3 (Function.update_self _ _ _) (S.keeps (S.point σ.state t) ++ ms)
  dsimp only at hstate₂ hphase₂ howner₂ hstate₄ hphase₄ howner₄
  have hheld : ∀ m, σ₂.owner m = some t ↔ m ∈ S.keeps (S.point σ.state t) ++ ms := by
    intro m
    rw [List.mem_append, ← hσ.owner]
    exact acquired_self howner₂ m
  have howner : ∀ m u, σ₄.owner m = some u ↔ m ∈ S.keeps (S.point s u) := by
    intro m u
    by_cases hut : u = t
    · subst hut
      exact released_self howner₄ hheld hk m
    · have h₂ := acquired_other howner₂ hnone hut m
      have hframe := S.frame _ _ _ _ _ _ hs hut
      rw [released_other howner₄ hut m, h₂, hσ.owner, hframe]
  have hphase : ∀ u, u ≠ t → σ₄.phase u = .ready := by
    intro u hut
    rw [hphase₄, Function.update_of_ne hut, hphase₂, Function.update_of_ne hut,
      Function.update_of_ne hut]
    exact hσ.ready u
  have h5 := h4.step (.done t (by rw [hphase₄, Function.update_self]) fun m ho => by
    rw [hstate₄]
    exact (howner m t).1 ho)
  refine ⟨_, h5, ⟨fun u => ?_, fun m u => ?_⟩, hstate₄⟩
  · by_cases hut : u = t
    · subst hut
      exact Function.update_self _ _ _
    · exact (Function.update_of_ne hut _ _).trans (hphase u hut)
  · simp only [howner, hstate₄]

/-- The threads can reach the state with no section in progress. -/
def Visits (S : Sections State Thread Mutex Label) (s : State) : Prop :=
  ∃ σ, S.interleaving.Reachable σ ∧ S.Settled σ ∧ σ.state = s

theorem visits_init (h : S.init s) : S.Visits s := by
  have hσ : S.interleaving.init ⟨s, fun _ => none, fun _ => .ready⟩ :=
    ⟨h, fun _ => rfl, fun _ => rfl⟩
  exact ⟨_, .init hσ, settled_start hσ, rfl⟩

theorem Visits.section (h : S.Visits s) (hb : S.begins s t ms) (hs : S.step s t ms l s')
    (hn : ms.Nodup) (hfree : ∀ m ∈ ms, ∀ u, m ∉ S.keeps (S.point s u))
    (hk : S.keeps (S.point s' t) ⊆ S.keeps (S.point s t) ++ ms) : S.Visits s' := by
  obtain ⟨σ, hr, hσ, rfl⟩ := h
  exact hσ.section hr hb hs hn hfree hk

end Sections

end WebGameServer
