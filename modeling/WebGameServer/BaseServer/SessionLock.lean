import WebGameServer.BaseServer.Threads

namespace WebGameServer
set_option autoImplicit true

def WorkerPc.guarded {T : Traits} : WorkerPc T → Option T.SessionId
  | .binding _ id _ => some id.session
  | .entering _ id _ => some id.session
  | _ => none

def CallerPc.guarded {T : Traits} : CallerPc T → Option T.SessionId
  | .completing sid _ _ => some sid
  | .closing sid _ _ _ _ => some sid
  | _ => none

section Local

variable {T : Traits} {Thread : Type} {cfg : Config T} {me other : Thread}
  {s s' : Server T Thread}

def Guards (me : Thread) (s : Server T Thread) (g : Option T.SessionId) : Prop :=
  ∀ sid, g = some sid → s.sessionLock = some me ∧ s.lockedSessions.at? sid = none

structure SameSessions (s s' : Server T Thread) : Prop where
  sessionLock : s'.sessionLock = s.sessionLock
  lockedSessions : s'.lockedSessions = s.lockedSessions
  sessionPlayers : s'.sessionPlayers = s.sessionPlayers

theorem SameSessions.guards (h : SameSessions s s') (hg : Guards me s g) : Guards me s' g := by
  intro sid he
  rw [h.sessionLock, h.lockedSessions]
  exact hg sid he

theorem Guards.none : Guards me s none := by
  intro sid he
  cases he

theorem not_held_by_other (hn : s.sessionLock = none) (ho : s.sessionLock = some other) :
    False := by
  rw [hn] at ho
  cases ho

/-- A thread cannot touch the data under the lock while another thread holds it. -/
theorem WorkerStep.undisturbed (h : WorkerStep cfg me s pc evs s' pc')
    (hg : Guards me s pc.guarded) (ho : s.sessionLock = some other) (hne : other ≠ me) :
    SameSessions s s' := by
  cases h with
  | disconnectSession hn | lockedSession c hv hn hr | openSession c hv hn hl =>
    exact (not_held_by_other hn ho).elim
  | setupConnectionId =>
    exact ⟨s.setupConnectionId_sessionLock, s.setupConnectionId_lockedSessions,
      s.setupConnectionId_sessionPlayers⟩
  | handleOpen =>
    have hm := (hg _ rfl).1
    rw [ho] at hm
    exact (hne (Option.some.inj hm)).elim
  | _ => exact ⟨rfl, rfl, rfl⟩

theorem CallerStep.undisturbed (h : CallerStep cfg me s pc evs s' pc')
    (hg : Guards me s pc.guarded) (ho : s.sessionLock = some other) (hne : other ≠ me) :
    SameSessions s s' := by
  cases h with
  | completeLocked c sid result hn hl | completeSession c sid result hn hl =>
    exact (not_held_by_other hn ho).elim
  | lockSession =>
    have hm := (hg _ rfl).1
    rw [ho] at hm
    exact (hne (Option.some.inj hm)).elim
  | _ => exact ⟨rfl, rfl, rfl⟩

theorem ControlStep.undisturbed (h : ControlStep s pc evs s' pc')
    (ho : s.sessionLock = some other) : SameSessions s s' := by
  cases h with
  | run hr | stop hr | notifyAll => exact ⟨rfl, rfl, rfl⟩
  | clearAll hn => exact (not_held_by_other hn ho).elim

theorem TransportStep.sameSessions (h : TransportStep s evs s') : SameSessions s s' := by
  cases h <;> exact ⟨rfl, rfl, rfl⟩

theorem WorkerStep.guards (h : WorkerStep cfg me s pc evs s' pc')
    (hg : Guards me s pc.guarded) : Guards me s' pc'.guarded := by
  cases h with
  | openSession c hv hn hl =>
    intro sid he
    cases he
    exact ⟨rfl, BufferedMap.at?_of_not_contains _ hl⟩
  | setupConnectionId =>
    intro sid he
    simpa only [Server.setupConnectionId_sessionLock, Server.setupConnectionId_lockedSessions]
      using hg sid he
  | _ => exact .none

theorem CallerStep.guards (h : CallerStep cfg me s pc evs s' pc')
    (hg : Guards me s pc.guarded) : Guards me s' pc'.guarded := by
  cases h with
  | completeSession c sid result hn hl =>
    intro sid he
    cases he
    exact ⟨rfl, BufferedMap.at?_of_not_contains _ hl⟩
  | findPlayer pid hp hi | skipPlayer pid hp hi | closePlayer => exact hg
  | _ => exact .none

end Local

variable {T : Traits} {Worker Caller : Type} [DecidableEq Worker] [DecidableEq Caller]
  {cfg : Config T} {σ σ' : System T Worker Caller}

/-- The discipline of `m_session_lock`: its holder is unique, and the session that it works
on stays unlocked until it releases the lock. -/
structure SessionLocking (σ : System T Worker Caller) : Prop where
  worker : ∀ w, Guards (.inl w) σ.server (σ.worker w).guarded
  caller : ∀ c, Guards (.inr c) σ.server (σ.caller c).guarded

theorem Guards.transfer {s s' : Server T Thread} (hg : Guards other s g)
    (h : s.sessionLock = some other → SameSessions s s') : Guards other s' g := by
  intro sid he
  exact (h (hg sid he).1).guards hg sid he

theorem SessionLocking.step (hσ : SessionLocking σ) (h : Step cfg σ evs σ') :
    SessionLocking σ' := by
  cases h with
  | transport h =>
    exact ⟨fun w => h.sameSessions.guards (hσ.worker w),
      fun c => h.sameSessions.guards (hσ.caller c)⟩
  | worker w h =>
    constructor
    · intro w'
      by_cases hw : w' = w
      · subst hw
        simpa only [Function.update_self] using h.guards (hσ.worker w')
      · simp only [Function.update_of_ne hw]
        exact (hσ.worker w').transfer fun ho =>
          h.undisturbed (hσ.worker w) ho fun he => hw (Sum.inl.inj he)
    · intro c
      exact (hσ.caller c).transfer fun ho => h.undisturbed (hσ.worker w) ho nofun
  | caller c h =>
    constructor
    · intro w
      exact (hσ.worker w).transfer fun ho => h.undisturbed (hσ.caller c) ho nofun
    · intro c'
      by_cases hc : c' = c
      · subst hc
        simpa only [Function.update_self] using h.guards (hσ.caller c')
      · simp only [Function.update_of_ne hc]
        exact (hσ.caller c').transfer fun ho =>
          h.undisturbed (hσ.caller c) ho fun he => hc (Sum.inr.inj he)
  | control h =>
    exact ⟨fun w => (hσ.worker w).transfer h.undisturbed,
      fun c => (hσ.caller c).transfer h.undisturbed⟩

theorem sessionLocking_invariant :
    (baseServer cfg).Invariant fun σ : System T Worker Caller => SessionLocking σ where
  init := by
    intro σ hinit
    obtain ⟨t, rfl⟩ := hinit
    exact ⟨fun w => .none, fun c => .none⟩
  step _ hσ h := hσ.step h

end WebGameServer
