import Mathlib.Logic.Function.Basic
import WebGameServer.Library.Transition

namespace WebGameServer
set_option autoImplicit true

/-- Threads that wait on a condition variable while there is no work, and producers that add
work in one step and notify one of the threads in a later one. -/
structure Signalling (State Thread Producer Label : Type) where
  init : State → Prop
  -- The steps of a producer or, without one, of all the other threads.
  step : Option Producer → State → Label → State → Prop
  -- Inside the wait.
  waits : State → Thread → Bool
  -- There is an entry that a waiting thread has to notice.
  work : State → Prop
  -- A thread that wakes up finds nothing to do and waits again.
  idle : State → Prop
  -- The producer of the step notifies after it.
  signals : State → Label → State → Bool

/-- What the steps mean for the condition variable. -/
structure Signalling.Lawful (M : Signalling State Thread Producer Label) : Prop where
  init : ∀ {s}, M.init s → ¬ M.work s
  waits : ∀ {p s l s' t}, M.step p s l s' → M.waits s t = false → M.waits s' t = true →
    ¬ M.work s'
  work : ∀ {p s l s'}, M.step p s l s' → M.work s' →
    M.work s ∨ (∃ q, p = some q ∧ M.signals s l s' = true) ∨ ∃ t, M.waits s' t = false
  idle : ∀ {s}, M.idle s → ¬ M.work s

/-- A state with the waiters of the condition variable and the producers whose notification is
still to be issued. -/
structure Signalled (State Thread Producer : Type) where
  state : State
  asleep : Thread → Bool
  owed : Producer → Bool

namespace Signalling

variable {State Thread Producer Label : Type} (M : Signalling State Thread Producer Label)

/-- The thread is among the waiters after the step. -/
def sleeps (σ : Signalled State Thread Producer) (s : State) (t : Thread) : Bool :=
  M.waits s t && (σ.asleep t || !M.waits σ.state t)

section Steps

variable [DecidableEq Producer]

/-- The notifications to come after a step. -/
def owes (σ : Signalled State Thread Producer) (l : Label) (s : State) :
    Option Producer → Producer → Bool
  | some q => Function.update σ.owed q (M.signals σ.state l s)
  | none => σ.owed

variable [DecidableEq Thread]

/-- The steps under the condition variable: a notification wakes one of the threads that wait
when it is issued, and is lost without one. -/
inductive SignalStep : Signalled State Thread Producer → Option Label →
    Signalled State Thread Producer → Prop where
  -- No sleeping thread takes a step, and a producer notifies before it goes on.
  | act (p : Option Producer) : M.step p σ.state l s → (∀ q, p = some q → σ.owed q = false) →
      (∀ t, σ.asleep t = true → M.waits s t = true) →
      SignalStep σ (some l) ⟨s, M.sleeps σ s, M.owes σ l s p⟩
  | notify (q : Producer) (t : Thread) : σ.owed q = true → σ.asleep t = true →
      SignalStep σ none
        { σ with
          asleep := Function.update σ.asleep t false
          owed := Function.update σ.owed q false }
  | notifyNone (q : Producer) : σ.owed q = true → (∀ t, σ.asleep t = false) →
      SignalStep σ none { σ with owed := Function.update σ.owed q false }
  -- A notification that another operation sends, or a spurious wake-up.
  | wake (t : Thread) :
      SignalStep σ none { σ with asleep := Function.update σ.asleep t false }
  | rewait (t : Thread) : M.waits σ.state t = true → M.idle σ.state →
      SignalStep σ none { σ with asleep := Function.update σ.asleep t true }

def signalled : LTS (Signalled State Thread Producer) (Option Label) where
  init σ := M.init σ.state ∧ (∀ t, σ.asleep t = false) ∧ ∀ q, σ.owed q = false
  step := M.SignalStep

end Steps

/-- Work does not wait alone: some thread is awake or a notification is still to come. -/
def Attended (σ : Signalled State Thread Producer) : Prop :=
  M.work σ.state → (∃ t, σ.asleep t = false) ∨ ∃ q, σ.owed q = true

variable {M}

theorem sleeps_of_not_waits (h : M.waits s t = false) : M.sleeps σ s t = false := by
  simp only [sleeps, h, Bool.false_and]

theorem sleeps_of_waits (ha : σ.asleep t = false) (h : M.waits σ.state t = true) :
    M.sleeps σ s t = false := by
  simp only [sleeps, ha, h, Bool.not_true, Bool.or_self, Bool.and_false]

theorem Lawful.stays_awake (hM : M.Lawful) (hs : M.step p σ.state l s) (hw : M.work s)
    (ha : σ.asleep t = false) : M.sleeps σ s t = false := by
  cases h' : M.waits s t with
  | false => exact sleeps_of_not_waits h'
  | true =>
    cases h : M.waits σ.state t with
    | false => exact (hM.waits hs h h' hw).elim
    | true => exact sleeps_of_waits ha h

section Invariant

variable [DecidableEq Producer]

theorem owes_of_owed (h : σ.owed q = true) (hp : ∀ q, p = some q → σ.owed q = false) :
    M.owes σ l s p q = true := by
  cases p with
  | none => exact h
  | some u =>
    have hne : q ≠ u := by
      intro he
      cases h.symm.trans (he ▸ hp u rfl)
    exact (Function.update_of_ne hne ..).trans h

theorem Attended.act (hM : M.Lawful) (hi : M.Attended σ) (hs : M.step p σ.state l s)
    (hp : ∀ q, p = some q → σ.owed q = false) :
    M.Attended ⟨s, M.sleeps σ s, M.owes σ l s p⟩ := by
  intro hw
  rcases hM.work hs hw with hw' | ⟨q, rfl, hq⟩ | ⟨t, ht⟩
  · rcases hi hw' with ⟨t, ht⟩ | ⟨q, hq⟩
    · exact .inl ⟨t, hM.stays_awake hs hw ht⟩
    · exact .inr ⟨q, owes_of_owed hq hp⟩
  · exact .inr ⟨q, (Function.update_self ..).trans hq⟩
  · exact .inl ⟨t, sleeps_of_not_waits ht⟩

variable [DecidableEq Thread]

theorem attended_invariant [Nonempty Thread] (hM : M.Lawful) :
    M.signalled.Invariant M.Attended where
  init h hw := (hM.init h.1 hw).elim
  step := by
    intro σ l σ' _ hi hs
    cases hs with
    | act p hs hp ha => exact hi.act hM hs hp
    | notify q t hq ht | wake t =>
      intro hw
      exact .inl ⟨t, Function.update_self ..⟩
    | notifyNone q hq ha =>
      intro hw
      exact .inl ⟨Classical.arbitrary Thread, ha _⟩
    | rewait t hw hid =>
      intro hw
      exact (hM.idle hid hw).elim

/-- The states under the condition variable are states of the system without it. -/
theorem reachable_state {N : LTS State Label} (hinit : ∀ {s}, M.init s → N.init s)
    (hstep : ∀ {p s l s'}, M.step p s l s' → N.step s l s')
    (h : M.signalled.Reachable σ) : N.Reachable σ.state := by
  refine LTS.Reachable.project (fun (h0 : M.init _ ∧ _) => hinit h0.1) (fun _ hs => ?_) h
  cases hs with
  | act p hs hp ha => exact .inr ⟨_, hstep hs⟩
  | _ => exact .inl rfl

/-- While a condition lasts, what the steps of the system keep under it holds. -/
theorem stays_while (C P : State → Prop)
    (h : (M.signalled.restrict fun _ _ σ' => C σ'.state).Reachable σ)
    (hinit : ∀ {s}, M.init s → P s) (hstep : ∀ {p s l s'}, M.step p s l s' → C s' → P s → P s') :
    P σ.state := by
  induction h with
  | init h0 => exact hinit h0.1
  | step _ hs ih =>
    obtain ⟨hs, hc⟩ := hs
    cases hs with
    | act p hs hp ha => exact hstep hs hc ih
    | _ => exact ih

end Invariant

end Signalling

end WebGameServer
