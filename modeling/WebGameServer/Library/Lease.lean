import Mathlib.Logic.Function.Basic

namespace WebGameServer
set_option autoImplicit true

/-- Keys that hold a number from a counter until they release it. -/
structure Lease (Key : Type) where
  next : Nat
  held : Key → Option Nat

inductive LeaseOp (Key : Type) where
  | acquire (k : Key)
  | release (k : Key)

namespace Lease

variable {Key : Type} {l : Lease Key} {k k' : Key} {op : LeaseOp Key}

def start : Lease Key := ⟨0, fun _ => none⟩

/-- The numbers that are held are distinct and were given out. -/
structure Fresh (l : Lease Key) : Prop where
  lt : ∀ {k i}, l.held k = some i → i < l.next
  inj : ∀ {k k' i}, l.held k = some i → l.held k' = some i → k = k'

theorem Fresh.start : (start : Lease Key).Fresh where
  lt h := by cases h
  inj h := by cases h

variable [DecidableEq Key]

/-- A key that holds a number keeps it when it asks again. -/
def step (l : Lease Key) : LeaseOp Key → Lease Key
  | .acquire k =>
    match l.held k with
    | some _ => l
    | none => ⟨l.next + 1, Function.update l.held k (some l.next)⟩
  | .release k => { l with held := Function.update l.held k none }

def run (l : Lease Key) (ops : List (LeaseOp Key)) : Lease Key := ops.foldl step l

theorem step_acquire_held (h : l.held k = some i) : l.step (.acquire k) = l := by
  simp only [step, h]

theorem step_acquire_free (h : l.held k = none) :
    l.step (.acquire k) = ⟨l.next + 1, Function.update l.held k (some l.next)⟩ := by
  simp only [step, h]

theorem next_step (l : Lease Key) (op : LeaseOp Key) :
    (l.step op).next = l.next ∨ (l.step op).next = l.next + 1 := by
  cases op with
  | acquire k =>
    cases h : l.held k with
    | some i => exact .inl (congrArg next (step_acquire_held h))
    | none => exact .inr (congrArg next (step_acquire_free h))
  | release k => exact .inl rfl

theorem next_step_le (l : Lease Key) (op : LeaseOp Key) : (l.step op).next ≤ l.next + 1 := by
  have h := next_step l op
  omega

theorem le_next_step (l : Lease Key) (op : LeaseOp Key) : l.next ≤ (l.step op).next := by
  have h := next_step l op
  omega

/-- A key holds after a step what it held before, or the number of the counter. -/
theorem held_step (h : (l.step op).held k = some i) :
    l.held k = some i ∧ op ≠ .release k ∨ i = l.next ∧ op = .acquire k := by
  cases op with
  | acquire k' =>
    cases hk : l.held k' with
    | some j =>
      rw [step_acquire_held hk] at h
      exact .inl ⟨h, fun he => by cases he⟩
    | none =>
      rw [step_acquire_free hk] at h
      by_cases he : k = k'
      · subst he
        simp only [Function.update_self] at h
        exact .inr ⟨(Option.some.inj h).symm, rfl⟩
      · simp only [Function.update_of_ne he] at h
        exact .inl ⟨h, fun he => by cases he⟩
  | release k' =>
    by_cases he : k = k'
    · subst he
      simp only [step, Function.update_self] at h
      cases h
    · simp only [step, Function.update_of_ne he] at h
      exact .inl ⟨h, fun hop => he (LeaseOp.release.inj hop).symm⟩

theorem Fresh.step (h : l.Fresh) (op : LeaseOp Key) : (l.step op).Fresh where
  lt {k i} hk := by
    rcases held_step hk with ⟨hk, -⟩ | ⟨rfl, rfl⟩
    · exact Nat.lt_of_lt_of_le (h.lt hk) (le_next_step l op)
    · cases hold : l.held k with
      | some j =>
        rw [step_acquire_held hold] at hk
        exact absurd (h.lt hk) (Nat.lt_irrefl _)
      | none =>
        rw [step_acquire_free hold]
        exact Nat.lt_succ_self _
  inj {k k' i} hk hk' := by
    rcases held_step hk with ⟨hk, -⟩ | ⟨rfl, rfl⟩
    · rcases held_step hk' with ⟨hk', -⟩ | ⟨rfl, -⟩
      · exact h.inj hk hk'
      · exact absurd (h.lt hk) (Nat.lt_irrefl _)
    · rcases held_step hk' with ⟨hk', -⟩ | ⟨-, he⟩
      · exact absurd (h.lt hk') (Nat.lt_irrefl _)
      · exact LeaseOp.acquire.inj he

theorem run_cons (l : Lease Key) (op : LeaseOp Key) (ops : List (LeaseOp Key)) :
    l.run (op :: ops) = (l.step op).run ops := rfl

theorem run_append (l : Lease Key) (ops ops' : List (LeaseOp Key)) :
    l.run (ops ++ ops') = (l.run ops).run ops' := List.foldl_append

theorem Fresh.run (h : l.Fresh) (ops : List (LeaseOp Key)) : (l.run ops).Fresh := by
  induction ops generalizing l with
  | nil => exact h
  | cons op ops ih => exact ih (h.step op)

theorem next_run_le (l : Lease Key) (ops : List (LeaseOp Key)) :
    (l.run ops).next ≤ l.next + ops.length := by
  induction ops generalizing l with
  | nil => exact Nat.le_refl _
  | cons op ops ih =>
    have hstep := next_step_le l op
    have hrun := ih (l := l.step op)
    rw [run_cons, List.length_cons]
    omega

theorem not_held_run (hi : i < l.next) (h : ∀ k, l.held k ≠ some i) (ops : List (LeaseOp Key)) :
    i < (l.run ops).next ∧ ∀ k, (l.run ops).held k ≠ some i := by
  induction ops generalizing l with
  | nil => exact ⟨hi, h⟩
  | cons op ops ih =>
    apply ih (Nat.lt_of_lt_of_le hi (le_next_step l op))
    intro k hk
    rcases held_step hk with ⟨hk, -⟩ | ⟨rfl, -⟩
    · exact h k hk
    · exact Nat.lt_irrefl _ hi

theorem held_step_of_ne (h : l.held k = some i) (hop : op ≠ .release k) :
    (l.step op).held k = some i := by
  cases op with
  | acquire k' =>
    cases hk : l.held k' with
    | some j => rwa [step_acquire_held hk]
    | none =>
      have hne : k ≠ k' := by
        rintro rfl
        cases h.symm.trans hk
      simp only [step_acquire_free hk, Function.update_of_ne hne]
      exact h
  | release k' =>
    have hne : k ≠ k' := fun he => hop (he ▸ rfl)
    simp only [step, Function.update_of_ne hne]
    exact h

/-- A key holds its number until it releases it, and nobody else ever holds this number. -/
theorem held_run (hf : l.Fresh) (h : l.held k = some i) (ops : List (LeaseOp Key)) :
    i < (l.run ops).next ∧ ((l.run ops).held k = some i ↔ .release k ∉ ops) ∧
      ∀ k', (l.run ops).held k' = some i → k' = k := by
  induction ops generalizing l with
  | nil => exact ⟨hf.lt h, ⟨fun _ => List.not_mem_nil, fun _ => h⟩, fun k' hk' => hf.inj hk' h⟩
  | cons op ops ih =>
    rw [run_cons, List.mem_cons, not_or]
    by_cases hop : op = .release k
    · subst hop
      have hgone : ∀ k', (l.step (.release k)).held k' ≠ some i := by
        intro k' hk'
        rcases held_step hk' with ⟨hk', hne⟩ | ⟨-, he⟩
        · exact hne (hf.inj hk' h ▸ rfl)
        · cases he
      obtain ⟨hlt, hnone⟩ := not_held_run (l := l.step (.release k)) (hf.lt h) hgone ops
      exact ⟨hlt, ⟨fun hk => (hnone k hk).elim, fun hn => (hn.1 rfl).elim⟩,
        fun k' hk' => (hnone k' hk').elim⟩
    · obtain ⟨hlt, hiff, honly⟩ := ih (hf.step op) (held_step_of_ne h hop)
      exact ⟨hlt, hiff.trans ⟨fun hn => ⟨fun he => hop he.symm, hn⟩, And.right⟩, honly⟩

end Lease

end WebGameServer
