import WebGameServer.BaseServer.Threads

namespace WebGameServer
set_option autoImplicit true

/-- The data of a connecting or disconnecting client. -/
inductive ConnectionUpdate (T : Traits) where
  | connection (id : CombinedId T) (data : T.Json)
  | disconnection (id : CombinedId T)

def Event.handled {T : Traits} : Event T → Bool
  | .handleOpen _ _ | .handleClose _ | .handleMessage _ _ => true
  | _ => false

/-- The event is a call of `complete_session` or of `send_message`. -/
def Event.called {T : Traits} : Event T → Bool
  | .completing _ _ | .sending _ _ => true
  | _ => false

section Handlers

variable {T : Traits} {Thread : Type} {cfg : Config T} {me : Thread} {s s' : Server T Thread}

theorem Origin.unhandled {o : Origin} {evs : List (Event T)} (ho : o ≠ .worker)
    (h : ∀ e ∈ evs, o.shows e = true) (e : Event T) (he : e ∈ evs) : e.handled = false := by
  have hs := h e he
  cases e with
  | handleOpen id data | handleClose id | handleMessage id msg =>
    cases o with
    | worker => exact (ho rfl).elim
    | _ => cases hs
  | _ => rfl

theorem TransportStep.unhandled (h : TransportStep s evs s') : ∀ e ∈ evs, e.handled = false :=
  Origin.unhandled (by decide) h.shows

theorem CallerStep.unhandled (h : CallerStep cfg me s pc evs s' pc') :
    ∀ e ∈ evs, e.handled = false :=
  Origin.unhandled (by decide) h.shows

theorem ControlStep.unhandled (h : ControlStep s pc evs s' pc') :
    ∀ e ∈ evs, e.handled = false :=
  Origin.unhandled (by decide) h.shows

theorem filterMap_unhandled {f : Event T → Option α} {evs : List (Event T)}
    (h : ∀ e ∈ evs, e.handled = false)
    (hf : ∀ e : Event T, e.handled = false → f e = none) : evs.filterMap f = [] := by
  rw [List.filterMap_eq_nil_iff]
  exact fun e he => hf e (h e he)

theorem Origin.uncalled {o : Origin} {evs : List (Event T)} (ho : o ≠ .caller)
    (h : ∀ e ∈ evs, o.shows e = true) (e : Event T) (he : e ∈ evs) : e.called = false := by
  have hs := h e he
  cases e with
  | completing sid result | sending id msg =>
    cases o with
    | caller => exact (ho rfl).elim
    | _ => cases hs
  | _ => rfl

theorem TransportStep.uncalled (h : TransportStep s evs s') : ∀ e ∈ evs, e.called = false :=
  Origin.uncalled (by decide) h.shows

theorem WorkerStep.uncalled (h : WorkerStep cfg me s pc evs s' pc') :
    ∀ e ∈ evs, e.called = false :=
  Origin.uncalled (by decide) h.shows

theorem ControlStep.uncalled (h : ControlStep s pc evs s' pc') :
    ∀ e ∈ evs, e.called = false :=
  Origin.uncalled (by decide) h.shows

theorem CallerStep.busy_uncalled (h : CallerStep cfg me s pc evs s' pc') (hbusy : pc ≠ .idle) :
    ∀ e ∈ evs, e.called = false := by
  cases h <;> first
    | exact (hbusy rfl).elim
    | simp only [List.forall_mem_cons, List.not_mem_nil, false_implies, implies_true,
        Event.called, and_self]

theorem CallerStep.busy_no_completing (h : CallerStep cfg me s pc evs s' pc')
    (hbusy : pc ≠ .idle) : .completing sid r ∉ evs := by
  intro he
  cases h.busy_uncalled hbusy _ he

end Handlers

end WebGameServer
