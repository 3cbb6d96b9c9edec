import WebGameServer.BaseServer.Handlers
import WebGameServer.Library.Condition

namespace WebGameServer
set_option autoImplicit true

section Points

variable {T : Traits}

/-- Inside `m_action_cond.wait`. -/
def WorkerPc.waits : WorkerPc T → Bool
  | .waiting => true
  | _ => false

/-- Between a successful test of `m_is_running` and the wait on `m_action_cond`. -/
def WorkerPc.enters : WorkerPc T → Bool
  | .locking => true
  | _ => false

/-- In `stop`, with `m_is_running` cleared and `notify_all` still to come. -/
def ControlPc.owes : ControlPc → Bool
  | .idle => false
  | .stopping | .notifying => true

/-- The step over `m_action_cond.notify_all`. -/
def ControlPc.notifies : ControlPc → ControlPc → Bool
  | .notifying, .idle => true
  | _, _ => false

theorem ControlPc.owes_of_notifies (pc pc' : ControlPc) (h : pc.notifies pc' = true) :
    pc.owes = true ∧ pc'.owes = false := by
  cases pc <;> cases pc' <;> first | exact ⟨rfl, rfl⟩ | cases h

end Points

section Steps

variable {T : Traits} {Thread : Type} {s s' : Server T Thread}

theorem TransportStep.isRunning (h : TransportStep s evs s') : s'.isRunning = s.isRunning := by
  cases h <;> rfl

theorem WorkerStep.isRunning (h : WorkerStep cfg me s pc evs s' pc') :
    s'.isRunning = s.isRunning := by
  cases h with
  | disconnectSession hn => exact s.disconnectSession_isRunning
  | lockedSession c hv hn ha | openSession c hv hn ha => exact s.updateSessionLocks_isRunning
  | setupConnectionId => exact s.setupConnectionId_isRunning
  | _ => rfl

theorem CallerStep.isRunning (h : CallerStep cfg me s pc evs s' pc') :
    s'.isRunning = s.isRunning := by
  cases h with
  | completeLocked c sid result hn hl | completeSession c sid result hn hl =>
    exact s.updateSessionLocks_isRunning
  | _ => rfl

theorem WorkerStep.waits (h : WorkerStep cfg me s pc evs s' pc') (hw : pc'.waits = true) :
    pc.enters = true := by
  cases h <;> first | rfl | cases hw

theorem WorkerStep.enters (h : WorkerStep cfg me s pc evs s' pc') (he : pc'.enters = true) :
    s.isRunning = true := by
  cases h <;> first | assumption | cases he

theorem ControlStep.flag (h : ControlStep s pc evs s' pc') :
    (pc = .idle ∧ pc' = .idle ∧ s.isRunning = false ∧ s'.isRunning = true) ∨
    (pc = .idle ∧ pc' = .stopping ∧ s.isRunning = true ∧ s'.isRunning = false) ∨
    (pc = .stopping ∧ pc' = .notifying ∧ s'.isRunning = s.isRunning) ∨
    (pc = .notifying ∧ pc' = .idle ∧ s'.isRunning = s.isRunning) := by
  cases h with
  | run hr => exact .inl ⟨rfl, rfl, hr, rfl⟩
  | stop hr => exact .inr (.inl ⟨rfl, rfl, hr, rfl⟩)
  | clearAll hn => exact .inr (.inr (.inl ⟨rfl, rfl, rfl⟩))
  | notifyAll => exact .inr (.inr (.inr ⟨rfl, rfl, rfl⟩))

end Steps

section System

variable {T : Traits} {Worker Caller : Type} [DecidableEq Worker] [DecidableEq Caller]
  {cfg : Config T} {σ σ' : System T Worker Caller}

/-- The workers with `m_action_cond`. A worker tests `m_is_running` and the queue again under
the lock that `stop` takes before it notifies. -/
def baseWaiting (cfg : Config T) :
    Stoppable (System T Worker Caller) Worker (List (Event T)) where
  system := baseServer cfg
  running σ := σ.server.isRunning
  waits σ w := (σ.worker w).waits
  enters σ w := (σ.worker w).enters
  owes σ _ := σ.control.owes
  notifies σ σ' _ := σ.control.notifies σ'.control
  rechecks σ _ := σ.server.isRunning = true ∧ σ.server.actions = []

theorem ControlStep.move {s : Server T (Worker ⊕ Caller)}
    (h : ControlStep σ.server σ.control evs s pc) (w : Worker) :
    (baseWaiting cfg).Move σ { σ with server := s, control := pc, log := log } w := by
  rcases h.flag with ⟨hp, rfl, -, hr⟩ | ⟨hp, rfl, hr, -⟩ | ⟨hp, rfl, hr⟩ | ⟨hp, rfl, hr⟩
  · exact .other (fun _ => hr) (congrArg ControlPc.owes hp).symm rfl rfl
  · exact .clear hr (congrArg ControlPc.owes hp) rfl rfl rfl
  · exact .stop hr (.inl (congrArg ControlPc.owes hp).symm) rfl rfl
  · exact .stop hr (.inr (congrArg (ControlPc.notifies · _) hp)) rfl rfl

theorem WorkerStep.move {s : Server T (Worker ⊕ Caller)} {u : Worker}
    (h : WorkerStep cfg (.inl u) σ.server (σ.worker u) evs s pc) (w : Worker) :
    (baseWaiting cfg).Move σ
      { σ with server := s, worker := Function.update σ.worker u pc, log := log } w := by
  by_cases hw : w = u
  · subst hw
    have hpc : Function.update σ.worker w pc w = pc := Function.update_self ..
    refine .self h.isRunning rfl (fun hw => h.waits ?_) fun he => .inl (h.enters ?_)
    · exact (congrArg WorkerPc.waits hpc).symm.trans hw
    · exact (congrArg WorkerPc.enters hpc).symm.trans he
  · have hpc := Function.update_of_ne hw pc σ.worker
    exact .other h.isRunning.trans rfl (congrArg WorkerPc.waits hpc)
      (congrArg WorkerPc.enters hpc)

theorem Step.move (h : Step cfg σ evs σ') (w : Worker) : (baseWaiting cfg).Move σ σ' w := by
  cases h with
  | transport h => exact .other h.isRunning.trans rfl rfl rfl
  | worker u h => exact h.move w
  | caller c h => exact .other h.isRunning.trans rfl rfl rfl
  | control h => exact h.move w

theorem baseWaiting_lawful :
    (baseWaiting cfg : Stoppable (System T Worker Caller) Worker _).Lawful where
  init := by
    rintro σ w ⟨t, rfl⟩
    rfl
  move h w := Step.move h w
  notifies := ControlPc.owes_of_notifies _ _
  rechecks h := h.1

end System

end WebGameServer
