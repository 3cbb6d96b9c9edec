import Mathlib.Logic.Function.Basic
import WebGameServer.Library.Transition

namespace WebGameServer
set_option autoImplicit true

/-- A system whose threads test a flag before they wait on a condition variable, and whose
stopping thread clears the flag and notifies the waiting threads later. -/
structure Stoppable (State Thread Label : Type) where
  system : LTS State Label
  running : State → Bool
  -- Inside the wait.
  waits : State → Thread → Bool
  -- Between a successful test of the flag and the wait that it may lead to.
  enters : State → Thread → Bool
  -- The flag is cleared and the notification of the thread is still to come.
  owes : State → Thread → Bool
  -- The step of the stopping thread that notifies the thread.
  notifies : State → State → Thread → Bool
  -- A thread that wakes up finds the flag set and nothing to do.
  rechecks : State → Thread → Prop

/-- What a step means for a thread. -/
inductive Stoppable.Move (M : Stoppable State Thread Label) (s s' : State) (t : Thread) :
    Prop where
  -- The stopping thread clears the flag.
  | clear : M.running s = true → M.owes s t = false → M.owes s' t = true →
      M.waits s' t = M.waits s t → M.enters s' t = M.enters s t → Move M s s' t
  -- The stopping thread moves on.
  | stop : M.running s' = M.running s → M.owes s' t = M.owes s t ∨ M.notifies s s' t = true →
      M.waits s' t = M.waits s t → M.enters s' t = M.enters s t → Move M s s' t
  -- Another thread moves, which may set the flag.
  | other : (M.running s = true → M.running s' = true) → M.owes s' t = M.owes s t →
      M.waits s' t = M.waits s t → M.enters s' t = M.enters s t → Move M s s' t
  -- The thread itself moves.
  | self : M.running s' = M.running s → M.owes s' t = M.owes s t →
      (M.waits s' t = true → M.enters s t = true) →
      (M.enters s' t = true → M.running s = true ∨ M.enters s t = true) → Move M s s' t

structure Stoppable.Lawful (M : Stoppable State Thread Label) : Prop where
  init : ∀ {s t}, M.system.init s → M.enters s t = false
  move : ∀ {s l s'}, M.system.step s l s' → ∀ t, M.Move s s' t
  notifies : ∀ {s s' t}, M.notifies s s' t = true → M.owes s t = true ∧ M.owes s' t = false
  rechecks : ∀ {s t}, M.rechecks s t → M.running s = true

/-- A state with the waiters of the condition variable. The field `missed` is ghost: the
threads that tested the flag before the last notification of a stop and may still wait. -/
structure Monitored (State Thread : Type) where
  state : State
  asleep : Thread → Bool
  missed : Thread → Bool

namespace Stoppable

variable {State Thread Label : Type} (M : Stoppable State Thread Label)

/-- The thread waits after the step and no notification is pending for it. -/
def sleeps (σ : Monitored State Thread) (s : State) (t : Thread) : Bool :=
  M.waits s t && !M.notifies σ.state s t && (σ.asleep t || !M.waits σ.state t)

/-- The thread is on its way to wait after the step and was so at the notification. -/
def misses (σ : Monitored State Thread) (s : State) (t : Thread) : Bool :=
  !M.running s && M.enters s t &&
    (σ.missed t || (M.notifies σ.state s t && M.enters σ.state t))

/-- No thread begins to wait after it has missed the notification of a stop. -/
def Timely (σ : Monitored State Thread) (_ : Option Label) (σ' : Monitored State Thread) :
    Prop :=
  ∀ t, M.waits σ.state t = false → M.waits σ'.state t = true → σ.missed t = false

/-- Once the flag is cleared and its notification sent, the thread does not sleep, and it has
missed the notification if it is on its way to wait. -/
def Notified (σ : Monitored State Thread) (t : Thread) : Prop :=
  M.running σ.state = false → M.owes σ.state t = false →
    σ.asleep t = false ∧ (M.enters σ.state t = true → σ.missed t = true)

/-- No thread sleeps once the flag is cleared and its notification sent. -/
def Awake (σ : Monitored State Thread) : Prop :=
  ∀ t, M.running σ.state = false → M.owes σ.state t = false → σ.asleep t = false

section Runs

variable [DecidableEq Thread]

/-- The steps of the system under the condition variable: a notification reaches the threads
that wait when it is sent, and no other thread. -/
inductive MonitorStep : Monitored State Thread → Option Label → Monitored State Thread →
    Prop where
  -- A step of the system, which no sleeping thread takes.
  | step : M.system.step σ.state l s → (∀ t, σ.asleep t = true → M.waits s t = true) →
      MonitorStep σ (some l) ⟨s, M.sleeps σ s, M.misses σ s⟩
  -- A notification that another operation sends, or a spurious wake-up.
  | wake (t : Thread) :
      MonitorStep σ none { σ with asleep := Function.update σ.asleep t false }
  | rewait (t : Thread) : M.waits σ.state t = true → M.rechecks σ.state t →
      MonitorStep σ none { σ with asleep := Function.update σ.asleep t true }

def monitored : LTS (Monitored State Thread) (Option Label) where
  init σ := M.system.init σ.state ∧ (∀ t, σ.asleep t = false) ∧ ∀ t, σ.missed t = false
  step := M.MonitorStep

end Runs

variable {M}

theorem Lawful.cleared (hM : M.Lawful) (h : M.system.step s l s')
    (hr : M.running s = true) (hr' : M.running s' = false) :
    M.owes s' t = true := by
  cases hM.move h t with
  | clear hrun ho ho' hw he => exact ho'
  | stop hrun ho hw he => cases hr'.symm.trans (hrun.trans hr)
  | other hrun ho hw he => cases hr'.symm.trans (hrun hr)
  | self hrun ho hw he => cases hr'.symm.trans (hrun.trans hr)

theorem Lawful.owes (hM : M.Lawful) (h : M.system.step s l s')
    (ho : M.owes s t = true) :
    M.owes s' t = true ∨ M.notifies s s' t = true := by
  cases hM.move h t with
  | clear hrun hn ho' hw he => exact .inl ho'
  | stop hrun ho' hw he => exact ho'.imp_left fun he => he.trans ho
  | other hrun ho' hw he | self hrun ho' hw he => exact .inl (ho'.trans ho)

theorem Lawful.owing (hM : M.Lawful) (h : M.system.step s l s')
    (ho : M.owes s' t = true) : M.owes s t = true ∨ M.running s = true := by
  cases hM.move h t with
  | clear hrun hn ho' hw he => exact .inr hrun
  | stop hrun ho' hw he =>
    rcases ho' with he | hn
    · exact .inl (he.symm.trans ho)
    · exact .inl (hM.notifies hn).1
  | other hrun ho' hw he | self hrun ho' hw he => exact .inl (ho'.symm.trans ho)

theorem Lawful.waits (hM : M.Lawful) (h : M.system.step s l s')
    (hw : M.waits s' t = true) : M.waits s t = true ∨ M.enters s t = true := by
  cases hM.move h t with
  | clear hrun hn ho hw' he | stop hrun ho hw' he | other hrun ho hw' he =>
    exact .inl (hw'.symm.trans hw)
  | self hrun ho hw' he => exact .inr (hw' hw)

theorem Lawful.begins (hM : M.Lawful) (h : M.system.step s l s')
    (hb : M.waits s t = false) (hw : M.waits s' t = true) :
    M.running s' = M.running s := by
  cases hM.move h t with
  | clear hrun hn ho hw' he => cases hw.symm.trans (hw'.trans hb)
  | stop hrun ho hw' he => exact hrun
  | other hrun ho hw' he => cases hw.symm.trans (hw'.trans hb)
  | self hrun ho hw' he => exact hrun

theorem Lawful.enters (hM : M.Lawful) (h : M.system.step s l s')
    (hr : M.running s = false) (he : M.enters s' t = true) :
    M.enters s t = true := by
  cases hM.move h t with
  | clear hrun hn ho hw he' | stop hrun ho hw he' | other hrun ho hw he' => exact he'.symm.trans he
  | self hrun ho hw he' =>
    rcases he' he with hrun' | he''
    · cases hr.symm.trans hrun'
    · exact he''

theorem sleeps_eq_false (ha : σ.asleep t = false)
    (hw : M.waits s t = true → M.waits σ.state t = true) : M.sleeps σ s t = false := by
  cases hs : M.waits s t with
  | false => simp only [sleeps, hs, Bool.false_and]
  | true => simp only [sleeps, ha, hw hs, Bool.not_true, Bool.or_self, Bool.and_false]

theorem sleeps_of_notifies (hn : M.notifies σ.state s t = true) : M.sleeps σ s t = false := by
  simp only [sleeps, hn, Bool.not_true, Bool.and_false, Bool.false_and]

theorem sleeps_eq_true (hb : M.waits σ.state t = false) (hw : M.waits s t = true)
    (hn : M.notifies σ.state s t = false) : M.sleeps σ s t = true := by
  simp only [sleeps, hb, hw, hn, Bool.not_false, Bool.and_self, Bool.or_true]

theorem misses_eq_true (hr : M.running s = false) (he : M.enters s t = true)
    (h : σ.missed t = true ∨ M.notifies σ.state s t = true ∧ M.enters σ.state t = true) :
    M.misses σ s t = true := by
  simp only [misses, hr, he, Bool.not_false, Bool.and_self, Bool.true_and, Bool.or_eq_true,
    Bool.and_eq_true]
  exact h

theorem Notified.step (hM : M.Lawful) (hi : M.Notified σ t)
    (hs : M.system.step σ.state l s)
    (ht : M.waits σ.state t = false → M.waits s t = true → σ.missed t = false) :
    M.Notified ⟨s, M.sleeps σ s, M.misses σ s⟩ t := by
  intro hr ho
  cases hrun : M.running σ.state with
  | true =>
    rw [hM.cleared hs hrun hr] at ho
    cases ho
  | false =>
    cases howes : M.owes σ.state t with
    | true =>
      -- This step is the notification: the thread is woken up, or it misses it.
      have hn : M.notifies σ.state s t = true :=
        (hM.owes hs howes).resolve_left (Bool.eq_false_iff.1 ho)
      exact ⟨sleeps_of_notifies hn,
        fun he => misses_eq_true hr he (.inr ⟨hn, hM.enters hs hrun he⟩)⟩
    | false =>
      obtain ⟨ha, hm⟩ := hi hrun howes
      refine ⟨sleeps_eq_false ha fun hw => ?_,
        fun he => misses_eq_true hr he (.inl (hm (hM.enters hs hrun he)))⟩
      rcases hM.waits hs hw with hw' | he
      · exact hw'
      · -- A thread on its way to wait has missed the notification, so it does not begin.
        cases hw' : M.waits σ.state t with
        | true => rfl
        | false => cases (ht hw' hw).symm.trans (hm he)

/-- What a thread has missed was sent, and the flag is still cleared. -/
def Late (M : Stoppable State Thread Label) (σ : Monitored State Thread) (t : Thread) : Prop :=
  σ.missed t = true → M.running σ.state = false ∧ M.owes σ.state t = false

theorem Late.owes (hM : M.Lawful) (hi : M.Late σ t) (hm : σ.missed t = true)
    (hs : M.system.step σ.state l s) : M.owes s t = false := by
  obtain ⟨hrun, ho⟩ := hi hm
  apply Bool.eq_false_iff.2
  intro ho'
  rcases hM.owing hs ho' with h | h
  · cases h.symm.trans ho
  · cases h.symm.trans hrun

theorem Late.step (hM : M.Lawful) (hi : M.Late σ t) (hs : M.system.step σ.state l s) :
    M.Late ⟨s, M.sleeps σ s, M.misses σ s⟩ t := by
  intro hm
  simp only [misses, Bool.and_eq_true, Bool.or_eq_true, Bool.not_eq_true'] at hm
  obtain ⟨⟨hr, -⟩, hm | ⟨hn, -⟩⟩ := hm
  · exact ⟨hr, hi.owes hM hm hs⟩
  · exact ⟨hr, (hM.notifies hn).2⟩

theorem Late.sleeps (hM : M.Lawful) (hi : M.Late σ t) (hs : M.system.step σ.state l s)
    (hb : M.waits σ.state t = false) (hw : M.waits s t = true) (hm : σ.missed t = true) :
    M.running s = false ∧ M.owes s t = false ∧ M.sleeps σ s t = true := by
  obtain ⟨hrun, ho⟩ := hi hm
  refine ⟨(hM.begins hs hb hw).trans hrun, hi.owes hM hm hs, sleeps_eq_true hb hw ?_⟩
  exact Bool.eq_false_iff.2 fun hn => Bool.noConfusion (ho.symm.trans (hM.notifies hn).1)

section Invariants

variable [DecidableEq Thread]

theorem notified_invariant (hM : M.Lawful) (t : Thread) :
    (M.monitored.restrict M.Timely).Invariant fun σ => M.Notified σ t where
  init := by
    rintro σ ⟨h0, ha, -⟩ - -
    refine ⟨ha t, fun he => ?_⟩
    rw [hM.init h0] at he
    cases he
  step := by
    rintro σ l σ' - hi ⟨hs, htimely⟩
    cases hs with
    | step hs hawake => exact hi.step hM hs (htimely t)
    | wake u =>
      intro hr ho
      obtain ⟨ha, hm⟩ := hi hr ho
      refine ⟨?_, hm⟩
      by_cases hu : t = u
      · subst hu
        exact Function.update_self ..
      · exact (Function.update_of_ne hu ..).trans ha
    | rewait u hw hre =>
      intro hr ho
      have hrun := hM.rechecks hre
      rw [hr] at hrun
      cases hrun

theorem late_invariant (hM : M.Lawful) (t : Thread) :
    M.monitored.Invariant fun σ => M.Late σ t where
  init := by
    rintro σ ⟨-, -, hm⟩ h
    cases h.symm.trans (hm t)
  step := by
    rintro σ l σ' - hi hs
    cases hs with
    | step hs hawake => exact hi.step hM hs
    | wake u | rewait u hw hre => exact hi

/-- A thread that begins to wait too late is asleep with the flag cleared, and `stop` owes it no
notification. -/
theorem sleeps_of_missed (hM : M.Lawful) (hr : M.monitored.Reachable σ)
    (hs : M.MonitorStep σ l σ') (hb : M.waits σ.state t = false)
    (hw : M.waits σ'.state t = true) (hm : σ.missed t = true) :
    M.running σ'.state = false ∧ M.owes σ'.state t = false ∧ σ'.asleep t = true := by
  have hlate := (late_invariant hM t).reachable hr
  cases hs with
  | step hs hawake => exact hlate.sleeps hM hs hb hw hm
  | wake u | rewait u hw' hre => cases hb.symm.trans hw

theorem awake (hM : M.Lawful) (h : (M.monitored.restrict M.Timely).Reachable σ) : M.Awake σ :=
  fun t hr ho => ((notified_invariant hM t).reachable h hr ho).1

/-- The condition is exact: it fails at a step only if that step puts a thread to sleep. -/
theorem timely_iff_awake (hM : M.Lawful) (h : (M.monitored.restrict M.Timely).Reachable σ)
    (hs : M.MonitorStep σ l σ') : M.Timely σ l σ' ↔ M.Awake σ' := by
  constructor
  · exact fun ht => awake hM (h.step ⟨hs, ht⟩)
  · intro ha t hb hw
    cases hm : σ.missed t with
    | false => rfl
    | true =>
      obtain ⟨hr, ho, hasleep⟩ := sleeps_of_missed hM h.of_restrict hs hb hw hm
      cases (ha t hr ho).symm.trans hasleep

theorem reachable_state (h : M.monitored.Reachable σ) : M.system.Reachable σ.state := by
  refine LTS.Reachable.project (fun (h0 : M.system.init _ ∧ _) => h0.1) (fun _ hs => ?_) h
  cases hs with
  | step hs hawake => exact .inr ⟨_, hs⟩
  | wake t | rewait t hw hr => exact .inl rfl

end Invariants

section Views

variable {State' Thread' Label' : Type}

/-- The threads of a part of a larger system. -/
def part (M : Stoppable State Thread Label) (N : LTS State' Label') (f : State' → State) :
    Stoppable State' Thread Label' where
  system := N
  running s := M.running (f s)
  waits s := M.waits (f s)
  enters s := M.enters (f s)
  owes s := M.owes (f s)
  notifies s s' := M.notifies (f s) (f s')
  rechecks s := M.rechecks (f s)

theorem Lawful.part {N : LTS State' Label'} {f : State' → State} (hM : M.Lawful)
    (hinit : ∀ {s}, N.init s → M.system.init (f s))
    (hstep : ∀ {s l s'}, N.step s l s' → f s' = f s ∨ ∃ l', M.system.step (f s) l' (f s')) :
    (M.part N f).Lawful where
  init h := hM.init (hinit h)
  move {s l s'} h t := by
    rcases hstep h with he | ⟨l', hs⟩
    · exact .other (congrArg M.running he).trans (congrArg (M.owes · t) he)
        (congrArg (M.waits · t) he) (congrArg (M.enters · t) he)
    · cases hM.move hs t with
      | clear hr hn ho hw he => exact .clear hr hn ho hw he
      | stop hr ho hw he => exact .stop hr ho hw he
      | other hr ho hw he => exact .other hr ho hw he
      | self hr ho hw he => exact .self hr ho hw he
  notifies h := hM.notifies h
  rechecks h := hM.rechecks h

/-- The threads of two condition variables of one system. -/
def both (M : Stoppable State Thread Label) (N : Stoppable State Thread' Label) :
    Stoppable State (Thread ⊕ Thread') Label where
  system := M.system
  running := M.running
  waits s := Sum.elim (M.waits s) (N.waits s)
  enters s := Sum.elim (M.enters s) (N.enters s)
  owes s := Sum.elim (M.owes s) (N.owes s)
  notifies s s' := Sum.elim (M.notifies s s') (N.notifies s s')
  rechecks s := Sum.elim (M.rechecks s) (N.rechecks s)

theorem Lawful.both {N : Stoppable State Thread' Label} (hM : M.Lawful) (hN : N.Lawful)
    (hs : N.system = M.system) (hr : N.running = M.running) : (M.both N).Lawful where
  init {s t} h := by
    cases t with
    | inl t => exact hM.init h
    | inr t => exact hN.init (hs ▸ h)
  move {s l s'} h t := by
    cases t with
    | inl t =>
      cases hM.move h t with
      | clear hr hn ho hw he => exact .clear hr hn ho hw he
      | stop hr ho hw he => exact .stop hr ho hw he
      | other hr ho hw he => exact .other hr ho hw he
      | self hr ho hw he => exact .self hr ho hw he
    | inr t =>
      cases hN.move (hs ▸ h) t with
      | clear hrun hn ho hw he => exact .clear (hr ▸ hrun) hn ho hw he
      | stop hrun ho hw he => exact .stop (hr ▸ hrun) ho hw he
      | other hrun ho hw he => exact .other (hr ▸ hrun) ho hw he
      | self hrun ho hw he => exact .self (hr ▸ hrun) ho hw (hr ▸ he)
  notifies {s s' t} h := by
    cases t with
    | inl t => exact hM.notifies h
    | inr t => exact hN.notifies h
  rechecks {s t} h := by
    cases t with
    | inl t => exact hM.rechecks h
    | inr t => exact hr ▸ hN.rechecks h

end Views

end Stoppable

end WebGameServer
