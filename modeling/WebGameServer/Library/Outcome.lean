import Mathlib.Control.Basic

namespace WebGameServer
set_option autoImplicit true

/-- What the evaluation of an expression comes to: a value, an exception, or behaviour that the
language leaves undefined. -/
inductive Outcome (ε α : Type) where
  | value (a : α)
  | thrown (e : ε)
  | undefined

namespace Outcome

variable {ε α β γ : Type}

def bind (x : Outcome ε α) (f : α → Outcome ε β) : Outcome ε β :=
  match x with
  | .value a => f a
  | .thrown e => .thrown e
  | .undefined => .undefined

instance : Monad (Outcome ε) where
  pure := .value
  bind := bind

instance : LawfulMonad (Outcome ε) :=
  LawfulMonad.mk' (Outcome ε)
    (by intro α x; cases x <;> rfl)
    (by intros; rfl)
    (by intro α β γ x f g; cases x <;> rfl)

/-- A handler for every exception. It does not repair undefined behaviour. -/
def catchAll (x : Outcome ε α) (a : α) : Outcome ε α :=
  match x with
  | .thrown _ => .value a
  | x => x

def IsValue (x : Outcome ε α) : Prop := ∃ a, x = .value a

@[simp] theorem pure_eq (a : α) : (pure a : Outcome ε α) = .value a := rfl

@[simp] theorem value_bind (a : α) (f : α → Outcome ε β) : (.value a >>= f) = f a := rfl

@[simp] theorem thrown_bind (e : ε) (f : α → Outcome ε β) :
    ((.thrown e : Outcome ε α) >>= f) = .thrown e := rfl

@[simp] theorem undefined_bind (f : α → Outcome ε β) :
    ((.undefined : Outcome ε α) >>= f) = .undefined := rfl

@[simp] theorem isValue_value (a : α) : (.value a : Outcome ε α).IsValue := ⟨a, rfl⟩

theorem IsValue.ne_undefined {x : Outcome ε α} (h : x.IsValue) : x ≠ .undefined := by
  obtain ⟨a, rfl⟩ := h
  intro he
  cases he

@[simp] theorem catchAll_value (a b : α) : (.value a : Outcome ε α).catchAll b = .value a := rfl

@[simp] theorem catchAll_thrown (e : ε) (b : α) :
    (.thrown e : Outcome ε α).catchAll b = .value b := rfl

@[simp] theorem catchAll_undefined (b : α) :
    (.undefined : Outcome ε α).catchAll b = .undefined := rfl

theorem catchAll_ne_thrown (x : Outcome ε α) (b : α) (e : ε) : x.catchAll b ≠ .thrown e := by
  intro h
  cases x <;> cases h

theorem bind_eq_value {x : Outcome ε α} {f : α → Outcome ε β} {b : β} :
    x >>= f = .value b ↔ ∃ a, x = .value a ∧ f a = .value b := by
  constructor
  · intro h
    cases x with
    | value a => exact ⟨a, rfl, h⟩
    | thrown e => cases h
    | undefined => cases h
  · rintro ⟨a, rfl, h⟩
    exact h

theorem bind_eq_undefined {x : Outcome ε α} {f : α → Outcome ε β} :
    x >>= f = .undefined ↔ x = .undefined ∨ ∃ a, x = .value a ∧ f a = .undefined := by
  constructor
  · intro h
    cases x with
    | value a => exact .inr ⟨a, rfl, h⟩
    | thrown e => cases h
    | undefined => exact .inl rfl
  · rintro (rfl | ⟨a, rfl, h⟩)
    · rfl
    · exact h

theorem bind_isValue_iff {x : Outcome ε α} {f : α → Outcome ε β} :
    (x >>= f).IsValue ↔ ∃ a, x = .value a ∧ (f a).IsValue := by
  constructor
  · rintro ⟨b, h⟩
    obtain ⟨a, rfl, h⟩ := bind_eq_value.1 h
    exact ⟨a, rfl, b, h⟩
  · rintro ⟨a, rfl, h⟩
    exact h

/-- A loop comes to a value exactly if each of its iterations that is reached does. -/
theorem foldlM_isValue_iff (f : β → α → Outcome ε β) (b : β) (l : List α) :
    (l.foldlM f b).IsValue ↔
      ∀ before a after c, l = before ++ a :: after → before.foldlM f b = .value c →
        (f c a).IsValue := by
  induction l generalizing b with
  | nil =>
    constructor
    · intro _ before a after c h
      cases before <;> cases h
    · intro _
      exact ⟨b, rfl⟩
  | cons a l ih =>
    rw [List.foldlM_cons, bind_isValue_iff]
    constructor
    · rintro ⟨b', hb', h⟩ before x after c he hc
      cases before with
      | nil =>
        cases he
        cases hc
        exact ⟨b', hb'⟩
      | cons y before =>
        cases he
        rw [List.foldlM_cons, hb', value_bind] at hc
        exact (ih b').1 h before x after c rfl hc
    · intro h
      obtain ⟨b', hb'⟩ := h [] a l b rfl rfl
      refine ⟨b', hb', (ih b').2 fun before x after c he hc => ?_⟩
      apply h (a :: before) x after c (congrArg (a :: ·) he)
      rw [List.foldlM_cons, hb', value_bind, hc]

theorem foldlM_isValue {f : β → α → Outcome ε β} {l : List α}
    (h : ∀ b, ∀ a ∈ l, (f b a).IsValue) (b : β) : (l.foldlM f b).IsValue := by
  apply (foldlM_isValue_iff f b l).2
  rintro before a after c rfl -
  exact h c a (List.mem_append_right _ List.mem_cons_self)

theorem foldlM_concat (f : β → α → Outcome ε β) (b : β) (l : List α) (a : α) :
    (l ++ [a]).foldlM f b = l.foldlM f b >>= fun c => f c a := by
  simp only [List.foldlM_append, List.foldlM_cons, List.foldlM_nil, bind_pure]

theorem foldlM_ne_thrown {f : β → α → Outcome ε β} (h : ∀ b a e, f b a ≠ .thrown e) (b : β)
    (l : List α) (e : ε) : l.foldlM f b ≠ .thrown e := by
  induction l generalizing b with
  | nil =>
    intro he
    cases he
  | cons a l ih =>
    rw [List.foldlM_cons]
    cases hb : f b a with
    | value b' => exact ih b'
    | thrown e' => exact (h b a e' hb).elim
    | undefined =>
      intro he
      cases he

theorem isValue_iff_ne_undefined {x : Outcome ε α} (h : ∀ e, x ≠ .thrown e) :
    x.IsValue ↔ x ≠ .undefined := by
  refine ⟨IsValue.ne_undefined, fun hu => ?_⟩
  cases x with
  | value a => exact ⟨a, rfl⟩
  | thrown e => exact (h e rfl).elim
  | undefined => exact (hu rfl).elim

theorem foldlM_preserves {P : β → Prop} {f : β → α → Outcome ε β} {b c : β} {l : List α}
    (hstep : ∀ b a b', a ∈ l → P b → f b a = .value b' → P b') (hb : P b)
    (h : l.foldlM f b = .value c) : P c := by
  induction l generalizing b with
  | nil =>
    cases h
    exact hb
  | cons a l ih =>
    rw [List.foldlM_cons] at h
    obtain ⟨b', hb', h⟩ := bind_eq_value.1 h
    have hP := hstep b a b' List.mem_cons_self hb hb'
    exact ih (fun b a b' ha => hstep b a b' (List.mem_cons_of_mem _ ha)) hP h

end Outcome

end WebGameServer
