import WebGameServer.BaseServer.Bindings
import WebGameServer.BaseServer.SessionLock

namespace WebGameServer
set_option autoImplicit true

section Local

variable {T : Traits} {Thread : Type} {cfg : Config T} {me other : Thread}
  {s s' : Server T Thread}

def Event.popped : Event T → Option (Action T)
  | .took a => some a
  | _ => none

/-- The steps that a worker has before it before it comes back to the queue, at most. -/
def WorkerPc.distance : WorkerPc T → Nat
  | .locking | .waiting | .returned => 0
  | .testing => 1
  | .closing _ _ | .messaging _ _ _ | .entering _ _ _ => 2
  | .uncounting _ _ | .binding _ _ _ => 3
  | .leaving _ _ | .opening _ _ => 4
  | .disconnecting _ _ => 5
  | .handling _ => 6

/-- The steps that a call has before it, at most. -/
def CallerPc.distance : CallerPc T → Nat
  | .idle => 0
  | .sending _ _ _ => 1
  | .completing _ _ todo => 2 * todo.card + 1
  | .closing _ _ todo _ _ => 2 * todo.card + 2

def WorkerPc.Busy (pc : WorkerPc T) : Prop := 1 < pc.distance

/-- A step of a worker pops an action, or brings it closer to the queue, or shows that there is
nothing to do. -/
theorem WorkerStep.advances (h : WorkerStep cfg me s pc evs s' pc') :
    s'.isRunning = s.isRunning ∧
      ((∃ a rest, s.actions = a :: rest ∧ s'.actions = rest ∧ evs.filterMap Event.popped = [a] ∧
          pc' = .handling a) ∨
        s'.actions = s.actions ∧ evs.filterMap Event.popped = [] ∧
          (pc' ≠ .returned ∧ pc'.distance < pc.distance ∨ s.actions = [] ∧ pc' = .waiting ∨
            s.isRunning = false ∧ pc' = .returned)) := by
  cases h with
  | pop ha | wakePop hr ha => exact ⟨rfl, .inl ⟨_, _, ha, rfl, rfl, rfl⟩⟩
  | wait ha => exact ⟨rfl, .inr ⟨rfl, rfl, .inr (.inl ⟨ha, rfl⟩)⟩⟩
  | exit hr | wakeStopped hr => exact ⟨rfl, .inr ⟨rfl, rfl, .inr (.inr ⟨hr, rfl⟩)⟩⟩
  | enter hr | subscribe ht | unsubscribeUnbound ht hu | unsubscribeBound ht hb
  | disconnectConnection | uncount | handleClose | messageUnbound ht hu | messageBound ht hb
  | handleMessage | outMessage ht | closeConnection ht | invalidToken hv | handleOpen =>
    exact ⟨rfl, .inr ⟨rfl, rfl, .inl ⟨nofun, by simp only [WorkerPc.distance]; decide⟩⟩⟩
  | disconnectSession hn =>
    exact ⟨s.disconnectSession_isRunning, .inr ⟨s.disconnectSession_actions, rfl,
      .inl ⟨nofun, by simp only [WorkerPc.distance]; decide⟩⟩⟩
  | lockedSession c hv hn hr | openSession c hv hn hl =>
    exact ⟨s.updateSessionLocks_isRunning, .inr ⟨s.updateSessionLocks_actions, rfl,
      .inl ⟨nofun, by simp only [WorkerPc.distance]; decide⟩⟩⟩
  | setupConnectionId =>
    refine ⟨s.setupConnectionId_isRunning, .inr ⟨s.setupConnectionId_actions, ?_,
      .inl ⟨nofun, by simp only [WorkerPc.distance]; decide⟩⟩⟩
    exact List.filterMap_eq_nil_iff.2 fun e he => by
      obtain ⟨old, -, rfl⟩ := List.mem_map.1 he
      rfl

theorem WorkerStep.busy_next (h : WorkerStep cfg me s pc evs s' pc') (hb : pc.Busy) :
    pc' = .testing ∨ pc'.Busy ∧ pc'.distance < pc.distance := by
  cases h with
  | enter | exit | wait | pop | wakeStopped | wakePop =>
    simp [WorkerPc.Busy, WorkerPc.distance] at hb
  | subscribe | unsubscribeUnbound | handleClose | handleMessage | outMessage | closeConnection
  | invalidToken | lockedSession | handleOpen => exact .inl rfl
  | unsubscribeBound | disconnectConnection | disconnectSession | uncount | messageUnbound
  | messageBound | openSession | setupConnectionId =>
    exact .inr (by simp only [WorkerPc.Busy, WorkerPc.distance]; decide)

/-- A worker is stuck only with `m_session_lock` held, without an action or after its return. -/
theorem exists_workerStep (cfg : Config T) (me : Thread) (s : Server T Thread) (pc : WorkerPc T)
    (hn : s.sessionLock = none) (hr : pc ≠ .returned)
    (hw : pc = .waiting → s.isRunning = true ∧ s.actions ≠ []) :
    ∃ evs s' pc', WorkerStep cfg me s pc evs s' pc' := by
  cases pc with
  | testing =>
    cases h : s.isRunning with
    | true => exact ⟨_, _, _, .enter h⟩
    | false => exact ⟨_, _, _, .exit h⟩
  | locking =>
    cases h : s.actions with
    | nil => exact ⟨_, _, _, .wait h⟩
    | cons a rest => exact ⟨_, _, _, .pop h⟩
  | waiting =>
    obtain ⟨hrun, hne⟩ := hw rfl
    obtain ⟨a, rest, h⟩ := List.exists_cons_of_ne_nil hne
    exact ⟨_, _, _, .wakePop hrun h⟩
  | returned => exact (hr rfl).elim
  | handling a =>
    cases ht : a.type with
    | subscribe => exact ⟨_, _, _, .subscribe ht⟩
    | unsubscribe =>
      cases hb : s.connectionIds.lookup a.hdl with
      | none => exact ⟨_, _, _, .unsubscribeUnbound ht hb⟩
      | some cid => exact ⟨_, _, _, .unsubscribeBound ht hb⟩
    | inMessage =>
      cases hb : s.connectionIds.lookup a.hdl with
      | none => exact ⟨_, _, _, .messageUnbound ht hb⟩
      | some cid => exact ⟨_, _, _, .messageBound ht hb⟩
    | outMessage => exact ⟨_, _, _, .outMessage ht⟩
    | closeConnection => exact ⟨_, _, _, .closeConnection ht⟩
  | disconnecting hdl cid => exact ⟨_, _, _, .disconnectConnection⟩
  | leaving hdl cid => exact ⟨_, _, _, .disconnectSession hn⟩
  | uncounting hdl cid => exact ⟨_, _, _, .uncount⟩
  | closing hdl cid => exact ⟨_, _, _, .handleClose⟩
  | messaging hdl cid msg => exact ⟨_, _, _, .handleMessage⟩
  | opening hdl token =>
    cases hv : cfg.verify token with
    | none => exact ⟨_, _, _, .invalidToken hv⟩
    | some login =>
      obtain ⟨cid, data⟩ := login
      cases hl : (s.updateSessionLocks cfg.sessionReleaseTime ⟨0, 0⟩).isLocked cid.session with
      | false => exact ⟨_, _, _, .openSession ⟨0, 0⟩ hv hn hl⟩
      | true =>
        obtain ⟨result, hresult⟩ := BufferedMap.at?_of_contains _ hl
        exact ⟨_, _, _, .lockedSession ⟨0, 0⟩ hv hn hresult⟩
  | binding hdl cid data => exact ⟨_, _, _, .setupConnectionId⟩
  | entering hdl cid data => exact ⟨_, _, _, .handleOpen⟩

theorem WorkerPc.Busy.exists_step {pc : WorkerPc T} (hb : pc.Busy) (cfg : Config T) (me : Thread)
    {s : Server T Thread} (hn : s.sessionLock = none) :
    ∃ evs s' pc', WorkerStep cfg me s pc evs s' pc' := by
  apply exists_workerStep cfg me s pc hn
  · rintro rfl
    exact Nat.not_lt_zero _ hb
  · rintro rfl
    exact (Nat.not_lt_zero _ hb).elim

theorem exists_callerStep (cfg : Config T) (me : Thread) (s : Server T Thread) (pc : CallerPc T)
    (hb : pc ≠ .idle) : ∃ evs s' pc', CallerStep cfg me s pc evs s' pc' := by
  cases pc with
  | idle => exact (hb rfl).elim
  | completing sid result todo =>
    rcases todo.eq_empty_or_nonempty with rfl | ⟨pid, hpid⟩
    · exact ⟨_, _, _, .lockSession⟩
    · cases h : s.idConnections.lookup ⟨pid, sid⟩ with
      | none => exact ⟨_, _, _, .skipPlayer pid hpid h⟩
      | some hdl => exact ⟨_, _, _, .findPlayer pid hpid h⟩
  | closing sid result todo pid hdl => exact ⟨_, _, _, .closePlayer⟩
  | sending cid hdl msg => exact ⟨_, _, _, .pushMessage⟩

theorem CallerStep.distance_lt (h : CallerStep cfg me s pc evs s' pc') (hb : pc ≠ .idle) :
    pc'.distance < pc.distance := by
  cases h with
  | completeLocked | completeSession | sendMessage | sendIgnored => exact (hb rfl).elim
  | findPlayer pid hp hi | skipPlayer pid hp hi =>
    have hcard := Finset.card_erase_add_one hp
    simp only [CallerPc.distance]
    omega
  | closePlayer => exact Nat.lt_succ_self _
  | lockSession => exact Nat.lt_succ_self _
  | pushMessage => exact Nat.lt_succ_self _

theorem WorkerStep.holder (h : WorkerStep cfg me s pc evs s' pc')
    (hl : s'.sessionLock = some other)
    (ho : s.sessionLock = some me → other = me → pc.guarded ≠ none) :
    s.sessionLock = some other ∧ other ≠ me ∨ other = me ∧ pc'.guarded ≠ none := by
  by_cases he : other = me
  · subst he
    refine .inr ⟨rfl, ?_⟩
    cases h with
    | openSession | setupConnectionId => simp only [WorkerPc.guarded, ne_eq, reduceCtorEq,
        not_false_eq_true]
    | handleOpen => cases hl
    | disconnectSession hn =>
      rw [s.disconnectSession_sessionLock, hn] at hl
      cases hl
    | lockedSession c hv hn hr =>
      rw [s.updateSessionLocks_sessionLock, hn] at hl
      cases hl
    | _ => exact (ho hl rfl rfl).elim
  · refine .inl ⟨?_, he⟩
    cases h with
    | openSession => exact (he (Option.some.inj hl).symm).elim
    | setupConnectionId => rwa [s.setupConnectionId_sessionLock] at hl
    | handleOpen => cases hl
    | disconnectSession hn => rwa [s.disconnectSession_sessionLock] at hl
    | lockedSession c hv hn hr => rwa [s.updateSessionLocks_sessionLock] at hl
    | _ => exact hl

theorem CallerStep.holder (h : CallerStep cfg me s pc evs s' pc')
    (hl : s'.sessionLock = some other)
    (ho : s.sessionLock = some me → other = me → pc.guarded ≠ none) :
    s.sessionLock = some other ∧ other ≠ me ∨ other = me ∧ pc'.guarded ≠ none := by
  by_cases he : other = me
  · subst he
    refine .inr ⟨rfl, ?_⟩
    cases h with
    | completeSession | findPlayer | skipPlayer | closePlayer =>
      simp only [CallerPc.guarded, ne_eq, reduceCtorEq, not_false_eq_true]
    | lockSession => cases hl
    | completeLocked c sid result hn =>
      rw [s.updateSessionLocks_sessionLock, hn] at hl
      cases hl
    | _ => exact (ho hl rfl rfl).elim
  · refine .inl ⟨?_, he⟩
    cases h with
    | completeSession => exact (he (Option.some.inj hl).symm).elim
    | lockSession => cases hl
    | completeLocked => rwa [s.updateSessionLocks_sessionLock] at hl
    | _ => exact hl

theorem ControlStep.lock_eq (h : ControlStep s pc evs s' pc') :
    s'.sessionLock = none ∨ s'.sessionLock = s.sessionLock := by
  cases h with
  | clearAll hn => exact .inl hn
  | _ => exact .inr rfl

theorem WorkerStep.release (h : WorkerStep cfg me s pc evs s' pc') (hg : pc.guarded ≠ none) :
    s'.sessionLock = none ∨ s'.sessionLock = s.sessionLock ∧ pc'.distance < pc.distance := by
  cases h with
  | setupConnectionId => exact .inr ⟨s.setupConnectionId_sessionLock, Nat.lt_succ_self _⟩
  | handleOpen => exact .inl rfl
  | _ => exact (hg rfl).elim

theorem CallerStep.release (h : CallerStep cfg me s pc evs s' pc') (hg : pc.guarded ≠ none) :
    s'.sessionLock = none ∨ s'.sessionLock = s.sessionLock ∧ pc'.distance < pc.distance := by
  have hlt := h.distance_lt fun he => hg (he ▸ rfl)
  cases h with
  | findPlayer | skipPlayer | closePlayer => exact .inr ⟨rfl, hlt⟩
  | lockSession => exact .inl rfl
  | _ => exact (hg rfl).elim

theorem exists_guardedStep (cfg : Config T) (me : Thread) (s : Server T Thread) (pc : WorkerPc T)
    (hg : pc.guarded ≠ none) : ∃ evs s' pc', WorkerStep cfg me s pc evs s' pc' := by
  cases pc with
  | binding hdl cid data => exact ⟨_, _, _, .setupConnectionId⟩
  | entering hdl cid data => exact ⟨_, _, _, .handleOpen⟩
  | _ => exact (hg rfl).elim

theorem TransportStep.appends (h : TransportStep s evs s') :
    s'.isRunning = s.isRunning ∧ evs.filterMap Event.popped = [] ∧ s.actions <+: s'.actions := by
  cases h with
  | onOpenStopped => exact ⟨rfl, rfl, List.prefix_refl _⟩
  | _ => exact ⟨rfl, rfl, List.prefix_append _ _⟩

theorem CallerStep.appends (h : CallerStep cfg me s pc evs s' pc') :
    s'.isRunning = s.isRunning ∧ evs.filterMap Event.popped = [] ∧ s.actions <+: s'.actions := by
  cases h with
  | closePlayer | pushMessage => exact ⟨rfl, rfl, List.prefix_append _ _⟩
  | completeLocked | completeSession =>
    refine ⟨s.updateSessionLocks_isRunning, rfl, ?_⟩
    simp only [Server.updateSessionLocks_actions]
    exact List.prefix_refl _
  | _ => exact ⟨rfl, rfl, List.prefix_refl _⟩

theorem ControlStep.appends (h : ControlStep s pc evs s' pc') (hn : .stopping ∉ evs) :
    s'.isRunning = true ∧ evs.filterMap Event.popped = [] ∧ s.actions <+: s'.actions := by
  cases h with
  | run => exact ⟨rfl, rfl, List.prefix_refl _⟩
  | _ => exact (hn List.mem_cons_self).elim

end Local

section System

variable {T : Traits} {Worker Caller : Type} [DecidableEq Worker] [DecidableEq Caller]
  {cfg : Config T} {σ σ' : System T Worker Caller}

structure HeldInside (σ : System T Worker Caller) : Prop where
  worker : ∀ w, σ.server.sessionLock = some (.inl w) → (σ.worker w).guarded ≠ none
  caller : ∀ c, σ.server.sessionLock = some (.inr c) → (σ.caller c).guarded ≠ none

theorem HeldInside.step (hσ : HeldInside σ) (h : Step cfg σ evs σ') : HeldInside σ' := by
  cases h with
  | transport h =>
    have he := h.sameSessions.sessionLock
    exact ⟨fun w hl => hσ.worker w (he ▸ hl), fun c hl => hσ.caller c (he ▸ hl)⟩
  | worker w h =>
    constructor
    · intro w' hl
      rcases h.holder hl fun hl _ => hσ.worker w hl with ⟨hl', hne⟩ | ⟨he, hg⟩
      · have hw : w' ≠ w := fun he => hne (congrArg Sum.inl he)
        simp only [Function.update_of_ne hw]
        exact hσ.worker w' hl'
      · cases Sum.inl.inj he
        simp only [Function.update_self]
        exact hg
    · intro c hl
      rcases h.holder hl fun hl _ => hσ.worker w hl with ⟨hl', -⟩ | ⟨he, -⟩
      · exact hσ.caller c hl'
      · cases he
  | caller c h =>
    constructor
    · intro w hl
      rcases h.holder hl fun hl _ => hσ.caller c hl with ⟨hl', -⟩ | ⟨he, -⟩
      · exact hσ.worker w hl'
      · cases he
    · intro c' hl
      rcases h.holder hl fun hl _ => hσ.caller c hl with ⟨hl', hne⟩ | ⟨he, hg⟩
      · have hc : c' ≠ c := fun he => hne (congrArg Sum.inr he)
        simp only [Function.update_of_ne hc]
        exact hσ.caller c' hl'
      · cases Sum.inr.inj he
        simp only [Function.update_self]
        exact hg
  | control h =>
    constructor
    · intro w hl
      rcases h.lock_eq with he | he
      · cases he.symm.trans hl
      · exact hσ.worker w (he.symm.trans hl)
    · intro c hl
      rcases h.lock_eq with he | he
      · cases he.symm.trans hl
      · exact hσ.caller c (he.symm.trans hl)

theorem heldInside_invariant : (baseServer cfg).Invariant
    fun σ : System T Worker Caller => HeldInside σ where
  init := by
    intro σ hinit
    obtain ⟨t, rfl⟩ := hinit
    exact ⟨nofun, nofun⟩
  step _ hσ h := hσ.step h

def WorkerActs (cfg : Config T) (w : Worker) (σ σ' : System T Worker Caller) : Prop :=
  ∃ evs s pc, WorkerStep cfg (.inl w) σ.server (σ.worker w) evs s pc ∧
    σ' = { σ with
      server := s, worker := Function.update σ.worker w pc, log := σ.log ++ evs }

def CallerActs (cfg : Config T) (c : Caller) (σ σ' : System T Worker Caller) : Prop :=
  σ.caller c ≠ .idle ∧ ∃ evs s pc, CallerStep cfg (.inr c) σ.server (σ.caller c) evs s pc ∧
    σ' = { σ with
      server := s, caller := Function.update σ.caller c pc, log := σ.log ++ evs }

theorem Step.worker_eq (h : Step cfg σ evs σ') (w : Worker) :
    WorkerActs cfg w σ σ' ∨ σ'.worker w = σ.worker w := by
  cases h with
  | worker w' h =>
    by_cases hw : w = w'
    · subst hw
      exact .inl ⟨_, _, _, h, rfl⟩
    · exact .inr (Function.update_of_ne hw _ _)
  | _ => exact .inr rfl

theorem Step.caller_eq (h : Step cfg σ evs σ') (c : Caller) (hb : σ.caller c ≠ .idle) :
    CallerActs cfg c σ σ' ∨ σ'.caller c = σ.caller c := by
  cases h with
  | caller c' h =>
    by_cases hc : c = c'
    · subst hc
      exact .inl ⟨hb, _, _, _, h, rfl⟩
    · exact .inr (Function.update_of_ne hc _ _)
  | _ => exact .inr rfl

theorem Step.lock_worker (hσ : SessionLocking σ) (h : Step cfg σ evs σ')
    (hl : σ.server.sessionLock = some (.inl w)) :
    WorkerActs cfg w σ σ' ∨ σ'.server.sessionLock = some (.inl w) := by
  cases h with
  | transport h => exact .inr (h.sameSessions.sessionLock.trans hl)
  | worker w' h =>
    by_cases hw : w = w'
    · subst hw
      exact .inl ⟨_, _, _, h, rfl⟩
    · have hsame := h.undisturbed (hσ.worker w') hl fun he => hw (Sum.inl.inj he)
      exact .inr (hsame.sessionLock.trans hl)
  | caller c h => exact .inr ((h.undisturbed (hσ.caller c) hl nofun).sessionLock.trans hl)
  | control h => exact .inr ((h.undisturbed hl).sessionLock.trans hl)

theorem Step.lock_caller (hσ : SessionLocking σ) (h : Step cfg σ evs σ')
    (hl : σ.server.sessionLock = some (.inr c)) (hb : σ.caller c ≠ .idle) :
    CallerActs cfg c σ σ' ∨ σ'.server.sessionLock = some (.inr c) := by
  cases h with
  | transport h => exact .inr (h.sameSessions.sessionLock.trans hl)
  | worker w h => exact .inr ((h.undisturbed (hσ.worker w) hl nofun).sessionLock.trans hl)
  | caller c' h =>
    by_cases hc : c = c'
    · subst hc
      exact .inl ⟨hb, _, _, _, h, rfl⟩
    · have hsame := h.undisturbed (hσ.caller c') hl fun he => hc (Sum.inr.inj he)
      exact .inr (hsame.sessionLock.trans hl)
  | control h => exact .inr ((h.undisturbed hl).sessionLock.trans hl)

theorem Step.appends (h : Step cfg σ evs σ') (hn : .stopping ∉ evs) :
    (σ.server.isRunning = true → σ'.server.isRunning = true) ∧
    σ.log.filterMap Event.popped <+: σ'.log.filterMap Event.popped ∧
    σ.log.filterMap Event.popped ++ σ.server.actions <+:
      σ'.log.filterMap Event.popped ++ σ'.server.actions := by
  rw [h.log, List.filterMap_append]
  refine ⟨?_, List.prefix_append _ _, ?_⟩
  · cases h with
    | transport h => exact fun hr => h.appends.1.trans hr
    | worker w h => exact fun hr => h.advances.1.trans hr
    | caller c h => exact fun hr => h.appends.1.trans hr
    | control h => exact fun _ => (h.appends hn).1
  rw [List.append_assoc]
  apply (List.prefix_append_right_inj _).2
  cases h with
  | transport h =>
    obtain ⟨-, hp, ha⟩ := h.appends
    rw [hp]
    exact ha
  | worker w h =>
    obtain ⟨-, ⟨a, rest, ha, ha', hp, -⟩ | ⟨ha, hp, -⟩⟩ := h.advances
    · rw [hp, ha, ha']
      exact List.prefix_refl _
    · rw [hp, ha]
      exact List.prefix_refl _
  | caller c h =>
    obtain ⟨-, hp, ha⟩ := h.appends
    rw [hp]
    exact ha
  | control h =>
    obtain ⟨-, hp, ha⟩ := h.appends hn
    rw [hp]
    exact ha

end System

end WebGameServer
