import WebGameServer.BaseServer.Bindings
import WebGameServer.BaseServer.Results

namespace WebGameServer
set_option autoImplicit true

/-- The action with which `complete_session` closes the connection of a player. -/
def closeAction {T : Traits} (cfg : Config T) (sid : T.SessionId) (r : SessionData T)
    (pid : T.PlayerId) (hdl : T.Hdl) : Action T where
  type := .closeConnection
  hdl := hdl
  msg := cfg.getResultStr ⟨pid, r.session⟩ r.data
  owner := some ⟨pid, sid⟩

section Local

variable {T : Traits} {Thread : Type} {cfg : Config T} {me : Thread} {s s' : Server T Thread}
  {pc pc' : WorkerPc T} {log : List (Event T)}

/-- The action is queued, or in the hand of the worker, or executed. -/
def Issued (log : List (Event T)) (s : Server T Thread) (pc : WorkerPc T) (a : Action T) :
    Prop :=
  a ∈ s.actions ∨ pc = .handling a ∨
    (.sent a.hdl a.msg a.owner ∈ log ∧ .closing a.hdl .sessionComplete ∈ log)

theorem Issued.mono (h : Issued log s pc a) (ha : s.actions ⊆ s'.actions) :
    Issued (log ++ evs) s' pc a := by
  rcases h with h | h | ⟨h1, h2⟩
  · exact .inl (ha h)
  · exact .inr (.inl h)
  · exact .inr (.inr ⟨List.mem_append_left _ h1, List.mem_append_left _ h2⟩)

theorem Issued.skip (h : Issued log s pc a) (hp : pc ≠ .handling a)
    (ha : s'.actions = s.actions) : Issued (log ++ evs) s' pc' a := by
  rcases h with h | h | ⟨h1, h2⟩
  · exact .inl (ha ▸ h)
  · exact (hp h).elim
  · exact .inr (.inr ⟨List.mem_append_left _ h1, List.mem_append_left _ h2⟩)

theorem Issued.pop (h : Issued log s pc a) (hp : pc ≠ .handling a) (hs : s.actions = b :: rest) :
    Issued (log ++ evs) ({ s with actions := rest } : Server T Thread) (.handling b) a := by
  rcases h with h | h | ⟨h1, h2⟩
  · rw [hs] at h
    rcases List.mem_cons.1 h with rfl | h
    · exact .inr (.inl rfl)
    · exact .inl h
  · exact (hp h).elim
  · exact .inr (.inr ⟨List.mem_append_left _ h1, List.mem_append_left _ h2⟩)

theorem Issued.worker (hi : Issued log s pc a) (ht : a.type = .closeConnection)
    (h : WorkerStep cfg me s pc evs s' pc') : Issued (log ++ evs) s' pc' a := by
  have hother (b : Action T) (hb : b.type ≠ .closeConnection) :
      WorkerPc.handling b ≠ .handling a := by
    intro he
    cases he
    exact hb ht
  cases h with
  | pop hs | wakePop hr hs => exact hi.pop nofun hs
  | @closeConnection _ b hb =>
    rcases hi with hi | hi | ⟨h1, h2⟩
    · exact .inl hi
    · cases hi
      refine .inr (.inr ⟨List.mem_append_right _ List.mem_cons_self, ?_⟩)
      exact List.mem_append_right _ (List.mem_cons_of_mem _ List.mem_cons_self)
    · exact .inr (.inr ⟨List.mem_append_left _ h1, List.mem_append_left _ h2⟩)
  | subscribe hb | unsubscribeUnbound hb hu | unsubscribeBound hb hu | messageUnbound hb hu
  | messageBound hb hu | outMessage hb => exact hi.skip (hother _ (by rw [hb]; exact nofun)) rfl
  | disconnectSession hn => exact hi.skip nofun (Server.disconnectSession_actions s)
  | lockedSession c hv hn hr | openSession c hv hn hl =>
    exact hi.skip nofun (Server.updateSessionLocks_actions s)
  | setupConnectionId => exact hi.skip nofun (Server.setupConnectionId_actions s)
  | _ => exact hi.skip nofun rfl

theorem CallerStep.actions_subset (h : CallerStep cfg me s cpc evs s' cpc') :
    s.actions ⊆ s'.actions := by
  cases h with
  | completeLocked c sid result hn hl =>
    rw [Server.updateSessionLocks_actions]
    exact List.Subset.refl _
  | completeSession c sid result hn hl =>
    simp only [Server.updateSessionLocks_actions]
    exact List.Subset.refl _
  | closePlayer | pushMessage => exact List.subset_append_left _ _
  | _ => exact List.Subset.refl _

theorem ControlStep.actions_subset (h : ControlStep s kpc evs s' kpc')
    (hn : .stopping ∉ evs) : s.actions ⊆ s'.actions := by
  cases h with
  | run hr => exact List.Subset.refl _
  | stop hr | clearAll hl | notifyAll => exact (hn List.mem_cons_self).elim

theorem TransportStep.actions_subset (h : TransportStep s evs s') :
    s.actions ⊆ s'.actions := by
  cases h with
  | onOpenStopped hdl hr => exact List.Subset.refl _
  | onOpen hdl hr | onMessage hdl msg | onClose hdl => exact List.subset_append_left _ _

theorem WorkerStep.id_bound_before (h : WorkerStep cfg me s pc evs s' pc')
    (hi : s'.idConnections.lookup cid = some hdl) :
    s.idConnections.lookup cid = some hdl ∨ pc.guarded = some cid.session := by
  rcases h.id_bound_by hi with hi | ⟨data, rfl⟩
  · exact .inl hi
  · exact .inr rfl

theorem WorkerStep.handle_bound_before (h : WorkerStep cfg me s pc evs s' pc')
    (hb : Bound s pc) (hi : s'.connectionIds.lookup hdl = some cid) :
    s.connectionIds.lookup hdl = some cid ∨ pc.guarded = some cid.session := by
  rcases h.id_bound_before (((h.bound hb).inverse hdl cid).1 hi) with hi | hg
  · exact .inl ((hb.inverse hdl cid).2 hi)
  · exact .inr hg

theorem WorkerStep.handleOpen_guarded (h : WorkerStep cfg me s pc evs s' pc')
    (he : .handleOpen cid data ∈ evs) : pc.guarded = some cid.session := by
  cases h with
  | handleOpen =>
    cases List.mem_singleton.1 he
    rfl
  | setupConnectionId =>
    obtain ⟨old, -, ho⟩ := List.mem_map.1 he
    cases ho
  | _ => simp only [List.mem_cons, reduceCtorEq, List.not_mem_nil, or_false] at he

theorem CallerStep.no_handleOpen (h : CallerStep cfg me s cpc evs s' cpc') :
    .handleOpen cid data ∉ evs :=
  notMem_of_shows h.shows rfl

theorem ControlStep.no_handleOpen (h : ControlStep s kpc evs s' kpc') :
    .handleOpen cid data ∉ evs :=
  notMem_of_shows h.shows rfl

/-- Whatever a login to the locked session does, it sends the stored result, closes the handle
and leaves the bindings alone. -/
def AnswersWithResult (cfg : Config T) (me : Thread) (s : Server T Thread) (sid : T.SessionId)
    (r : SessionData T) : Prop :=
  ∀ hdl token cid data, cfg.verify token = some (cid, data) → cid.session = sid →
    ∀ evs s' pc', WorkerStep cfg me s (.opening hdl token) evs s' pc' →
      s'.lockedSessions.at? sid = some r →
      let str := cfg.getResultStr ⟨cid.player, r.session⟩ r.data
      evs = [.result cid str, .sent hdl str (some cid), .closing hdl .sessionComplete] ∧
        SameBindings s s' ∧ pc' = .testing

theorem answersWithResult (cfg : Config T) (me : Thread) (s : Server T Thread)
    (sid : T.SessionId) (r : SessionData T) : AnswersWithResult cfg me s sid r := by
  intro hdl token cid data hv hc evs s' pc' h hl
  subst hc
  cases h with
  | invalidToken hv' =>
    rw [hv] at hv'
    cases hv'
  | lockedSession c hv' hn hr =>
    rw [hv] at hv'
    cases hv'
    rw [hl] at hr
    cases hr
    exact ⟨rfl, .updateSessionLocks s, rfl⟩
  | openSession c hv' hn hfree =>
    rw [hv] at hv'
    cases hv'
    have hnone := BufferedMap.at?_of_not_contains _ hfree
    simp only [hnone, reduceCtorEq] at hl

/-- Every player bound in the session is still to be visited or has its action issued. -/
def CallerPc.Covers (cfg : Config T) (log : List (Event T)) (s : Server T Thread)
    (pc : WorkerPc T) : CallerPc T → Prop
  | .completing sid r todo => ∀ pid hdl, s.idConnections.lookup ⟨pid, sid⟩ = some hdl →
    pid ∈ todo ∨ Issued log s pc (closeAction cfg sid r pid hdl)
  | .closing sid r todo pid' hdl' => ∀ pid hdl,
    s.idConnections.lookup ⟨pid, sid⟩ = some hdl →
    pid ∈ todo ∨ (pid = pid' ∧ hdl = hdl') ∨ Issued log s pc (closeAction cfg sid r pid hdl)
  | _ => True

theorem CallerPc.Covers.mono {cpc : CallerPc T} (h : cpc.Covers cfg log s pc)
    (hi : ∀ sid, cpc.guarded = some sid → ∀ pid hdl,
      s'.idConnections.lookup ⟨pid, sid⟩ = some hdl →
      s.idConnections.lookup ⟨pid, sid⟩ = some hdl)
    (ha : ∀ a : Action T, a.type = .closeConnection → Issued log s pc a →
      Issued log' s' pc' a) : cpc.Covers cfg log' s' pc' := by
  cases cpc with
  | completing sid r todo =>
    intro pid hdl hb
    exact (h pid hdl (hi sid rfl pid hdl hb)).imp_right (ha _ rfl)
  | closing sid r todo pid' hdl' =>
    intro pid hdl hb
    exact (h pid hdl (hi sid rfl pid hdl hb)).imp_right (Or.imp_right (ha _ rfl))
  | _ => trivial

theorem CallerStep.covers {cpc cpc' : CallerPc T} (h : CallerStep cfg me s cpc evs s' cpc')
    (hc : cpc.Covers cfg log s pc) (hb : Bound s pc)
    (hfree : s.sessionLock = none → pc.enteringId = none) :
    cpc'.Covers cfg (log ++ evs) s' pc := by
  have hsub : ∀ a : Action T, a.type = .closeConnection → Issued log s pc a →
      Issued (log ++ evs) s' pc a := fun a _ ha => ha.mono h.actions_subset
  cases h with
  | completeSession c sid r hn hl =>
    intro pid hdl hi
    simp only [Server.updateSessionLocks_idConnections] at hi
    have hp := hb.players ⟨pid, sid⟩ (by rw [hfree hn]; exact nofun)
    exact .inl (hp.2 (.inl (Option.isSome_iff_exists.2 ⟨hdl, hi⟩)))
  | @findPlayer _ todo sid hdl r pid hm hi =>
    intro pid' hdl' hi'
    by_cases hp : pid' = pid
    · subst hp
      rw [hi] at hi'
      exact .inr (.inl ⟨rfl, (Option.some.inj hi').symm⟩)
    · rcases hc pid' hdl' hi' with ht | ha
      · exact .inl (Finset.mem_erase.2 ⟨hp, ht⟩)
      · exact .inr (.inr (hsub _ rfl ha))
  | @skipPlayer _ todo sid r pid hm hi =>
    intro pid' hdl' hi'
    have hp : pid' ≠ pid := by
      rintro rfl
      rw [hi] at hi'
      cases hi'
    rcases hc pid' hdl' hi' with ht | ha
    · exact .inl (Finset.mem_erase.2 ⟨hp, ht⟩)
    · exact .inr (hsub _ rfl ha)
  | closePlayer =>
    intro pid' hdl' hi'
    rcases hc pid' hdl' hi' with ht | ⟨rfl, rfl⟩ | ha
    · exact .inl ht
    · exact .inr (.inl (List.mem_append_right _ (List.mem_singleton.2 rfl)))
    · exact .inr (hsub _ rfl ha)
  | _ => trivial

/-- A call that stores the result of a session has issued the actions of all its players. -/
theorem CallerStep.locked_covered {cpc cpc' : CallerPc T}
    (h : CallerStep cfg me s cpc evs s' cpc') (hg : Guards me s cpc.guarded)
    (hc : cpc.Covers cfg log s pc) (hl : s'.lockedSessions.at? sid = some r)
    (hi : s.idConnections.lookup ⟨pid, sid⟩ = some hdl) :
    s.lockedSessions.at? sid = some r ∨ Issued log s pc (closeAction cfg sid r pid hdl) := by
  cases h with
  | completeLocked c sid result hn hlocked | completeSession c sid result hn hlocked =>
    exact .inl (s.at?_of_updateSessionLocks hl)
  | @lockSession _ sid' result =>
    rw [Server.lockSession, s.lockedSessions.at?_insert (hg _ rfl).2] at hl
    split at hl
    · next he =>
      subst he
      cases hl
      exact .inr ((hc pid hdl hi).resolve_left (Finset.notMem_empty pid))
    · exact .inl hl
  | _ => exact .inl hl

end Local

section Completed

variable {T : Traits} {Worker Caller : Type} [DecidableEq Worker] [DecidableEq Caller]
  {cfg : Config T} {σ σ' : System T Worker Caller}

/-- The session has been passed to `complete_session`. -/
def Completed {T : Traits} (log : List (Event T)) (sid : T.SessionId) : Prop :=
  ∃ r, .completing sid r ∈ log

theorem Completed.of_append {T : Traits} {log evs : List (Event T)} {sid : T.SessionId}
    (h : Completed (log ++ evs) sid) :
    Completed log sid ∨ ∃ r, .completing sid r ∈ evs := by
  obtain ⟨r, hm⟩ := h
  rcases List.mem_append.1 hm with hm | hm
  · exact .inl ⟨r, hm⟩
  · exact .inr ⟨r, hm⟩

def KeepsLocks (σ : System T Worker Caller) (evs : List (Event T))
    (σ' : System T Worker Caller) : Prop :=
  ∀ sid, Retains sid σ evs σ'

theorem decided_invariant : ((baseServer cfg).restrict KeepsLocks).Invariant
    fun σ : System T Worker Caller => ∀ sid, Completed σ.log sid → ∃ r, Decided σ sid r where
  init := by
    rintro σ ⟨t, rfl⟩ sid ⟨r, hr⟩
    cases hr
  step {σ evs σ'} hr hσ h := by
    obtain ⟨h, hk⟩ := h
    rintro sid ⟨r, hm⟩
    rw [h.log] at hm
    have hl := sessionLocking_invariant.reachable hr.of_restrict
    rcases List.mem_append.1 hm with hm | hm
    · obtain ⟨r', hd⟩ := hσ sid ⟨r, hm⟩
      exact ⟨r', hd.step hl h (hk sid)⟩
    · cases hn : σ'.server.lockedSessions.at? sid with
      | none => exact ⟨r, h.decides hm hn⟩
      | some r' => exact ⟨r', .inl hn⟩

theorem CallerStep.deciding_before {s s' : Server T Thread} (h : CallerStep cfg me s pc evs s' pc')
    (hd : pc'.deciding = some (sid, r)) :
    pc.deciding = some (sid, r) ∨ .completing sid r ∈ evs := by
  cases h with
  | completeSession c sid' r' hn hl =>
    cases hd
    exact .inr (List.mem_singleton.2 rfl)
  | findPlayer pid hm hi | skipPlayer pid hm hi | closePlayer => exact .inl hd
  | _ => cases hd

theorem completed_invariant : (baseServer cfg).Invariant
    fun σ : System T Worker Caller => ∀ sid r, Decided σ sid r → Completed σ.log sid where
  init := by
    rintro σ ⟨t, rfl⟩ sid r (hd | ⟨c, hd⟩) <;> cases hd
  step {σ evs σ'} hr hσ h := by
    have hl := sessionLocking_invariant.reachable hr
    have hold : ∀ sid r, Decided σ sid r → Completed σ'.log sid := by
      intro sid r hd
      obtain ⟨r', hm⟩ := hσ sid r hd
      exact ⟨r', h.log ▸ List.mem_append_left _ hm⟩
    rintro sid r (hd | ⟨c, hd⟩)
    · exact hold sid r (h.decided_before hl hd)
    · cases h with
      | transport h | worker w h | control h => exact hold sid r (.inr ⟨c, hd⟩)
      | caller c' h =>
        by_cases hc : c = c'
        · subst hc
          simp only [Function.update_self] at hd
          rcases h.deciding_before hd with hd | hm
          · exact hold sid r (.inr ⟨c, hd⟩)
          · exact ⟨r, List.mem_append_right _ hm⟩
        · exact hold sid r (.inr ⟨c, by simpa only [Function.update_of_ne hc] using hd⟩)

theorem Step.decides_first (h : Step cfg σ evs σ') (hr : (baseServer cfg).Reachable σ)
    (he : .completing sid r ∈ evs) (hn : ¬ Completed σ.log sid) : Decided σ' sid r := by
  apply h.decides he
  cases hl : σ'.server.lockedSessions.at? sid with
  | none => rfl
  | some v =>
    have hd := h.decided_before (sessionLocking_invariant.reachable hr) hl
    exact (hn (completed_invariant.reachable hr sid v hd)).elim

theorem Step.handleOpen_guarded (h : Step cfg σ evs σ') (he : .handleOpen cid data ∈ evs) :
    ∃ w, (σ.worker w).guarded = some cid.session := by
  cases h with
  | transport h =>
    cases h <;> simp only [List.mem_cons, reduceCtorEq, List.not_mem_nil, or_false] at he
  | worker w h => exact ⟨w, h.handleOpen_guarded he⟩
  | caller c h | control h => exact (h.no_handleOpen he).elim

theorem Step.handleOpen_undecided (h : Step cfg σ evs σ') (hl : SessionLocking σ)
    (he : .handleOpen cid data ∈ evs) : ¬ Decided σ cid.session r := by
  obtain ⟨w, hw⟩ := h.handleOpen_guarded he
  obtain ⟨hlock, hnone⟩ := hl.worker w _ hw
  rintro (hd | ⟨c, hd⟩)
  · rw [hnone] at hd
    cases hd
  · have hc := (hl.caller c _ (CallerPc.guarded_of_deciding hd)).1
    rw [hlock] at hc
    cases hc

end Completed

variable {T : Traits} {Caller : Type} [DecidableEq Caller] {cfg : Config T}
  {σ σ' : System T Unit Caller}

/-- Every player bound in a locked session has its action issued, and so will every player
bound in a session that a call is about to lock. -/
structure NobodyLeft (cfg : Config T) (σ : System T Unit Caller) : Prop where
  locked : ∀ sid r, σ.server.lockedSessions.at? sid = some r → ∀ pid hdl,
    σ.server.idConnections.lookup ⟨pid, sid⟩ = some hdl →
    Issued σ.log σ.server (σ.worker ()) (closeAction cfg sid r pid hdl)
  caller : ∀ c, (σ.caller c).Covers cfg σ.log σ.server (σ.worker ())

omit [DecidableEq Caller] in
theorem SessionLocking.worker_free (hl : SessionLocking σ)
    (hc : (σ.caller c).guarded = some sid) (hw : (σ.worker ()).guarded = some sid') : False := by
  have h := (hl.caller c sid hc).1
  rw [(hl.worker () sid' hw).1] at h
  cases h

omit [DecidableEq Caller] in
theorem SessionLocking.entering_free (hl : SessionLocking σ)
    (hn : σ.server.sessionLock = none) : (σ.worker ()).enteringId = none := by
  cases hw : σ.worker () with
  | entering hdl cid data =>
    have h := (hl.worker () cid.session (by rw [hw]; rfl)).1
    rw [hn] at h
    cases h
  | _ => rfl

theorem NobodyLeft.step (hσ : NobodyLeft cfg σ) (hb : Bound σ.server (σ.worker ()))
    (hl : SessionLocking σ) (h : Step cfg σ evs σ') (hn : .stopping ∉ evs) :
    NobodyLeft cfg σ' := by
  cases h with
  | transport h =>
    have hs := h.sameBindings
    constructor
    · intro sid r hr pid hdl hi
      rw [h.sameSessions.lockedSessions] at hr
      exact (hσ.locked sid r hr pid hdl (hs.idConnections ▸ hi)).mono h.actions_subset
    · intro c
      exact (hσ.caller c).mono (fun _ _ _ _ hi => hs.idConnections ▸ hi)
        fun a _ ha => ha.mono h.actions_subset
  | worker w h =>
    constructor
    · intro sid r hr pid hdl hi
      simp only [Function.update_self]
      have hr' := h.locked_before hr
      rcases h.id_bound_before hi with hi | hg
      · exact (hσ.locked sid r hr' pid hdl hi).worker rfl h
      · rw [(hl.worker () sid hg).2] at hr'
        cases hr'
    · intro c
      simp only [Function.update_self]
      apply (hσ.caller c).mono ?_ fun a ht ha => ha.worker ht h
      intro sid hg pid hdl hi
      exact (h.id_bound_before hi).resolve_right fun hw => hl.worker_free hg hw
  | caller c h =>
    have hs := h.sameBindings
    constructor
    · intro sid r hr pid hdl hi
      rw [hs.idConnections] at hi
      rcases h.locked_covered (hl.caller c) (hσ.caller c) hr hi with hr | ha
      · exact (hσ.locked sid r hr pid hdl hi).mono h.actions_subset
      · exact ha.mono h.actions_subset
    · intro c'
      by_cases hc : c' = c
      · subst hc
        simp only [Function.update_self]
        exact h.covers (hσ.caller c') hb hl.entering_free
      · simp only [Function.update_of_ne hc]
        exact (hσ.caller c').mono (fun _ _ _ _ hi => hs.idConnections ▸ hi)
          fun a _ ha => ha.mono h.actions_subset
  | control h =>
    have hs := h.sameBindings hn
    constructor
    · intro sid r hr pid hdl hi
      have hr' := h.locked_before hr
      exact (hσ.locked sid r hr' pid hdl (hs.idConnections ▸ hi)).mono (h.actions_subset hn)
    · intro c
      exact (hσ.caller c).mono (fun _ _ _ _ hi => hs.idConnections ▸ hi)
        fun a _ ha => ha.mono (h.actions_subset hn)

theorem nobodyLeft_invariant : ((baseServer cfg).restrict NoStop).Invariant
    fun σ : System T Unit Caller => NobodyLeft cfg σ where
  init := by
    intro σ hinit
    obtain ⟨t, rfl⟩ := hinit
    exact ⟨nofun, fun c => trivial⟩
  step hr hσ h :=
    hσ.step (bound_invariant.reachable hr) (sessionLocking_invariant.reachable hr.of_restrict)
      h.1 h.2

/-- With one worker and no `stop`: while a session is locked, every handle bound in it has a
CLOSE_CONNECTION action with the stored result queued, in the hand of the worker or executed;
no step binds a handle in it or calls `m_handle_open` for it; and a login to it is answered
with the stored result and closed. -/
theorem no_participant_left (hσ : ((baseServer cfg).restrict NoStop).Reachable σ)
    (hl : σ.server.lockedSessions.at? sid = some r) :
    (∀ pid hdl, σ.server.idConnections.lookup ⟨pid, sid⟩ = some hdl →
      Issued σ.log σ.server (σ.worker ()) (closeAction cfg sid r pid hdl)) ∧
    (∀ evs σ', ((baseServer cfg).restrict NoStop).step σ evs σ' → ∀ pid,
      (∀ hdl, σ'.server.idConnections.lookup ⟨pid, sid⟩ = some hdl →
        σ.server.idConnections.lookup ⟨pid, sid⟩ = some hdl) ∧
      (∀ hdl, σ'.server.connectionIds.lookup hdl = some ⟨pid, sid⟩ →
        σ.server.connectionIds.lookup hdl = some ⟨pid, sid⟩) ∧
      ∀ data, .handleOpen ⟨pid, sid⟩ data ∉ evs) ∧
    AnswersWithResult cfg (.inl ()) σ.server sid r := by
  have hlocking := sessionLocking_invariant.reachable hσ.of_restrict
  have hfree : (σ.worker ()).guarded ≠ some sid := by
    intro hg
    rw [(hlocking.worker () sid hg).2] at hl
    cases hl
  refine ⟨(nobodyLeft_invariant.reachable hσ).locked sid r hl, fun evs σ' h pid => ?_,
    answersWithResult cfg _ _ sid r⟩
  obtain ⟨h, hn⟩ := h
  cases h with
  | transport h =>
    refine ⟨fun hdl => h.sameBindings.idConnections ▸ id,
      fun hdl => h.sameBindings.connectionIds ▸ id, fun data he => ?_⟩
    cases h <;> simp only [List.mem_cons, reduceCtorEq, List.not_mem_nil, or_false] at he
  | worker w h =>
    have hb := bound_invariant.reachable hσ
    exact ⟨fun hdl hi => (h.id_bound_before hi).resolve_right hfree,
      fun hdl hi => (h.handle_bound_before hb hi).resolve_right hfree,
      fun data he => hfree (h.handleOpen_guarded he)⟩
  | caller c h =>
    exact ⟨fun hdl => h.sameBindings.idConnections ▸ id,
      fun hdl => h.sameBindings.connectionIds ▸ id, fun data => h.no_handleOpen⟩
  | control h =>
    exact ⟨fun hdl => (h.sameBindings hn).idConnections ▸ id,
      fun hdl => (h.sameBindings hn).connectionIds ▸ id, fun data => h.no_handleOpen⟩

/-- Ada is connected when session 7 is completed, and her connection will be closed. -/
theorem no_participant_left_completion :
    ∃ σ : System natTraits Unit Unit, σ.server.lockedSessions.at? 7 = some ⟨7, 1⟩ ∧
      σ.server.idConnections.lookup ⟨1, 7⟩ = some 5 ∧
      Issued σ.log σ.server (σ.worker ()) (closeAction natConfig 7 ⟨7, 1⟩ 1 5) := by
  have h0 : ((baseServer natConfig).restrict NoStop).Reachable
      (System.start 0 : System natTraits Unit Unit) := .init ⟨0, rfl⟩
  have h1 := h0.step ⟨.control (.run rfl), by simp [NoStop]⟩
  have h2 := h1.step ⟨.transport (.onMessage (5 : Nat) "ada"), by simp [NoStop]⟩
  have h3 := h2.step ⟨.worker () (.enter rfl), by simp [NoStop]⟩
  have h4 := h3.step ⟨.worker () (.pop rfl), by simp [NoStop]⟩
  have h5 := h4.step ⟨.worker () (.messageUnbound rfl rfl), by simp [NoStop]⟩
  have h6 := h5.step ⟨.worker () (.openSession ⟨0, 0⟩ rfl rfl rfl), by simp [NoStop]⟩
  have h7 := h6.step ⟨.worker () .setupConnectionId, by simp [NoStop]⟩
  have h8 := h7.step ⟨.worker () .handleOpen, by simp [NoStop]⟩
  have h9 := h8.step
    ⟨.caller () (.completeSession ⟨0, 0⟩ (7 : Nat) ⟨(7 : Nat), (1 : Nat)⟩ rfl rfl),
      by simp [NoStop]⟩
  have h10 := h9.step ⟨.caller () (.findPlayer (1 : Nat) (by decide) rfl), by simp [NoStop]⟩
  have h11 := h10.step ⟨.caller () .closePlayer, by simp [NoStop]⟩
  have h12 := h11.step ⟨.caller () .lockSession, by simp [NoStop]⟩
  exact ⟨_, rfl, rfl, (no_participant_left h12 rfl).1 1 5 rfl⟩

end WebGameServer
