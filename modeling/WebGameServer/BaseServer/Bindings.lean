import WebGameServer.BaseServer.Threads

namespace WebGameServer
set_option autoImplicit true

section Local

variable {T : Traits} {Thread : Type} {cfg : Config T} {me : Thread} {s s' : Server T Thread}
  {pc pc' : WorkerPc T}

/-- The handle whose UNSUBSCRIBE action the thread is handling. -/
def WorkerPc.unsubscribing : WorkerPc T → Option T.Hdl
  | .handling a => if a.type = .unsubscribe then some a.hdl else none
  | .disconnecting hdl _ | .leaving hdl _ | .uncounting hdl _ | .closing hdl _ => some hdl
  | _ => none

def WorkerPc.enteringId : WorkerPc T → Option (CombinedId T)
  | .entering _ cid _ => some cid
  | _ => none

def WorkerPc.leavingId : WorkerPc T → Option (CombinedId T)
  | .leaving _ cid => some cid
  | _ => none

def WorkerPc.uncounted : WorkerPc T → Nat
  | .leaving _ _ | .uncounting _ _ => 1
  | _ => 0

def WorkerPc.Fits (s : Server T Thread) : WorkerPc T → Prop
  | .disconnecting hdl cid => s.connectionIds.lookup hdl = some cid
  | .leaving _ cid | .uncounting _ cid | .closing _ cid => s.idConnections.lookup cid = none
  | .opening hdl _ | .binding hdl _ _ => s.connectionIds.lookup hdl = none
  | .entering hdl cid _ => s.idConnections.lookup cid = some hdl
  | _ => True

/-- The relation between the five containers and the counter, with what the action in flight
has not done yet. -/
structure Bound (s : Server T Thread) (pc : WorkerPc T) : Prop where
  inverse : Map.Inverse s.connectionIds s.idConnections
  fits : pc.Fits s
  players : ∀ cid, pc.enteringId ≠ some cid →
    (cid.player ∈ s.playersOf cid.session ↔
      (s.idConnections.lookup cid).isSome ∨ pc.leavingId = some cid)
  nonempty : s.NoEmptySession
  count : s.playerCount = s.idConnections.keys.card + pc.uncounted

/-- The containers of bindings are the same in both states. -/
structure SameBindings (s s' : Server T Thread) : Prop where
  newConnections : s'.newConnections = s.newConnections
  connectionIds : s'.connectionIds = s.connectionIds
  idConnections : s'.idConnections = s.idConnections
  sessionPlayers : s'.sessionPlayers = s.sessionPlayers
  playerCount : s'.playerCount = s.playerCount

theorem SameBindings.refl (s : Server T Thread) : SameBindings s s := ⟨rfl, rfl, rfl, rfl, rfl⟩

theorem SameBindings.updateSessionLocks (s : Server T Thread) :
    SameBindings s (s.updateSessionLocks r c) :=
  ⟨s.updateSessionLocks_newConnections, s.updateSessionLocks_connectionIds,
    s.updateSessionLocks_idConnections, s.updateSessionLocks_sessionPlayers,
    s.updateSessionLocks_playerCount⟩

theorem SameBindings.playersOf (h : SameBindings s s') : s'.playersOf sid = s.playersOf sid := by
  simp only [Server.playersOf, h.sessionPlayers]

theorem TransportStep.sameBindings (h : TransportStep s evs s') : SameBindings s s' := by
  cases h <;> exact ⟨rfl, rfl, rfl, rfl, rfl⟩

theorem CallerStep.sameBindings (h : CallerStep cfg me s cpc evs s' cpc') :
    SameBindings s s' := by
  cases h with
  | completeLocked c sid result hn hl => exact .updateSessionLocks s
  | completeSession c sid result hn hl =>
    have h := SameBindings.updateSessionLocks (r := cfg.sessionReleaseTime) (c := c) s
    exact ⟨h.1, h.2, h.3, h.4, h.5⟩
  | _ => exact ⟨rfl, rfl, rfl, rfl, rfl⟩

theorem ControlStep.sameBindings (h : ControlStep s kpc evs s' kpc')
    (hn : .stopping ∉ evs) : SameBindings s s' := by
  cases h with
  | run hr => exact ⟨rfl, rfl, rfl, rfl, rfl⟩
  | stop hr | clearAll hl | notifyAll => exact (hn List.mem_cons_self).elim

theorem WorkerPc.Fits.congr (h : SameBindings s s') (hf : pc.Fits s) : pc.Fits s' := by
  cases pc <;> simp only [WorkerPc.Fits, h.connectionIds, h.idConnections] at hf ⊢ <;> exact hf

theorem Bound.move (hb : Bound s pc) (h : SameBindings s s') (hf : pc'.Fits s)
    (he : pc'.enteringId = pc.enteringId) (hl : pc'.leavingId = pc.leavingId)
    (hu : pc'.uncounted = pc.uncounted) : Bound s' pc' where
  inverse := by rw [h.connectionIds, h.idConnections]; exact hb.inverse
  fits := hf.congr h
  players cid hc := by
    rw [h.playersOf, h.idConnections, hl]
    exact hb.players cid (he ▸ hc)
  nonempty := by
    intro sid
    rw [h.sessionPlayers]
    exact hb.nonempty sid
  count := by
    rw [h.playerCount, h.idConnections, hu]
    exact hb.count

theorem Bound.same (hb : Bound s pc) (h : SameBindings s s') : Bound s' pc :=
  hb.move h hb.fits rfl rfl rfl

theorem Bound.disconnectConnection (hb : Bound s (.disconnecting hdl cid)) :
    Bound (s.disconnectConnection hdl cid) (.leaving hdl cid) := by
  have hc : s.connectionIds.lookup hdl = some cid := hb.fits
  have hi : s.idConnections.lookup cid = some hdl := (hb.inverse hdl cid).1 hc
  constructor
  · exact hb.inverse.erase hc
  · exact Finmap.lookup_erase cid _
  · intro cid' _
    have hp := hb.players cid' nofun
    simp only [WorkerPc.leavingId, reduceCtorEq, or_false] at hp
    simp only [Server.disconnectConnection, Map.lookup_erase_ite, WorkerPc.leavingId,
      Option.some.injEq]
    by_cases he : cid' = cid
    · subst he
      simp only [↓reduceIte, Option.isSome_none, Bool.false_eq_true, or_true, iff_true]
      exact hp.2 (by rw [hi, Option.isSome_some])
    · simp only [he, Ne.symm he, ↓reduceIte, or_false]
      exact hp
  · exact hb.nonempty
  · have hk := Map.card_erase_present s.idConnections hi
    have hn := hb.count
    simp only [WorkerPc.uncounted] at hn
    simp only [Server.disconnectConnection, WorkerPc.uncounted]
    omega

theorem Bound.disconnectSession (hb : Bound s (.leaving hdl cid)) :
    Bound (s.disconnectSession cid) (.uncounting hdl cid) := by
  have hu : s.idConnections.lookup cid = none := hb.fits
  constructor
  · simpa only [Server.disconnectSession_connectionIds, Server.disconnectSession_idConnections]
      using hb.inverse
  · simpa only [WorkerPc.Fits, Server.disconnectSession_idConnections] using hu
  · intro cid' _
    have hp := hb.players cid' (Option.some_ne_none cid').symm
    simp only [WorkerPc.leavingId, Option.some.injEq] at hp
    simp only [Server.mem_playersOf_disconnectSession, hp,
      Server.disconnectSession_idConnections, WorkerPc.leavingId, reduceCtorEq, or_false]
    by_cases he : cid' = cid
    · subst he
      simp only [hu, Option.isSome_none, Bool.false_eq_true, or_true, ne_eq, not_true_eq_false,
        and_false]
    · simp only [Ne.symm he, or_false, ne_eq, he, not_false_eq_true, and_true]
  · exact hb.nonempty.disconnectSession cid
  · simp only [Server.disconnectSession_playerCount, Server.disconnectSession_idConnections]
    exact hb.count

theorem Bound.uncount (hb : Bound s (.uncounting hdl cid)) :
    Bound { s with playerCount := sizeDecrement s.playerCount } (.closing hdl cid) := by
  refine ⟨hb.inverse, hb.fits, hb.players, hb.nonempty, ?_⟩
  have hn : s.playerCount = s.idConnections.keys.card + 1 := hb.count
  simp only [hn, sizeDecrement_pos (Nat.succ_pos _)]
  rfl

theorem Bound.setupConnectionId (hb : Bound s (.binding hdl cid data)) :
    Bound (s.setupConnectionId hdl cid) (.entering hdl cid data) := by
  have hu : s.connectionIds.lookup hdl = none := hb.fits
  constructor
  · exact s.inverse_setupConnectionId hb.inverse hu cid
  · simp only [WorkerPc.Fits, Server.lookup_idConnections_setup, ↓reduceIte]
  · intro cid' hc
    have hne : cid' ≠ cid := fun he => hc (he ▸ rfl)
    have hp := hb.players cid' nofun
    simp only [Server.playersOf, Server.setupConnectionId_sessionPlayers,
      Server.lookup_idConnections_setup, hne, ↓reduceIte]
    exact hp
  · intro sid
    rw [Server.setupConnectionId_sessionPlayers]
    exact hb.nonempty sid
  · have h := s.setupConnectionId_balance hdl cid
    have hn := hb.count
    simp only [WorkerPc.uncounted] at hn ⊢
    omega

theorem Bound.insertPlayer (hb : Bound s (.entering hdl cid data)) :
    Bound ({ s.insertPlayer cid with sessionLock := none } : Server T Thread) .testing := by
  refine ⟨hb.inverse, trivial, fun cid' _ => ?_, hb.nonempty.insertPlayer cid, hb.count⟩
  have hm : cid'.player ∈ (s.insertPlayer cid).playersOf cid'.session ↔
      ⟨cid'.player, cid'.session⟩ = cid ∨ cid'.player ∈ s.playersOf cid'.session :=
    s.mem_playersOf_insertPlayer cid
  have hi : s.idConnections.lookup cid = some hdl := hb.fits
  apply hm.trans
  by_cases he : cid' = cid
  · subst he
    exact iff_of_true (.inl rfl) (.inl (Option.isSome_iff_exists.2 ⟨hdl, hi⟩))
  · have hp := hb.players cid' fun h => he (Option.some.inj h).symm
    refine Iff.trans (or_iff_right fun h => he h) hp

/-- Each step of the only worker restores the relation or notes the work left to do. -/
theorem WorkerStep.bound (h : WorkerStep cfg me s pc evs s' pc') (hb : Bound s pc) :
    Bound s' pc' := by
  cases h with
  | enter hr | exit hr | wait ha => exact hb.move (.refl s) trivial rfl rfl rfl
  | pop ha => exact hb.move ⟨rfl, rfl, rfl, rfl, rfl⟩ trivial rfl rfl rfl
  | wakeStopped hr => exact hb.move (.refl s) trivial rfl rfl rfl
  | wakePop hr ha => exact hb.move ⟨rfl, rfl, rfl, rfl, rfl⟩ trivial rfl rfl rfl
  | subscribe ht | unsubscribeUnbound ht hu =>
    exact ⟨hb.inverse, trivial, hb.players, hb.nonempty, hb.count⟩
  | unsubscribeBound ht hi => exact hb.move (.refl s) hi rfl rfl rfl
  | disconnectConnection => exact hb.disconnectConnection
  | disconnectSession hn => exact hb.disconnectSession
  | uncount => exact hb.uncount
  | handleClose => exact hb.move (.refl s) trivial rfl rfl rfl
  | messageUnbound ht hu => exact hb.move (.refl s) hu rfl rfl rfl
  | messageBound ht hi | handleMessage | outMessage ht | closeConnection ht | invalidToken hv =>
    exact hb.move (.refl s) trivial rfl rfl rfl
  | lockedSession c hv hn hr => exact hb.move (.updateSessionLocks s) trivial rfl rfl rfl
  | openSession c hv hn hl =>
    have h := SameBindings.updateSessionLocks (r := cfg.sessionReleaseTime) (c := c) s
    exact hb.move ⟨h.1, h.2, h.3, h.4, h.5⟩ hb.fits rfl rfl rfl
  | setupConnectionId => exact hb.setupConnectionId
  | handleOpen => exact hb.insertPlayer

theorem WorkerStep.id_bound_by (h : WorkerStep cfg me s pc evs s' pc')
    (hi : s'.idConnections.lookup cid = some hdl) :
    s.idConnections.lookup cid = some hdl ∨ ∃ data, pc = .binding hdl cid data := by
  cases h with
  | disconnectConnection =>
    rw [Server.disconnectConnection, Map.lookup_erase_ite] at hi
    split at hi
    · cases hi
    · exact .inl hi
  | setupConnectionId =>
    rw [Server.lookup_idConnections_setup] at hi
    split at hi
    · next he =>
      subst he
      cases hi
      exact .inr ⟨_, rfl⟩
    · exact .inl hi
  | disconnectSession hn => exact .inl (s.disconnectSession_idConnections ▸ hi)
  | lockedSession c hv hn hr | openSession c hv hn hl =>
    exact .inl (s.updateSessionLocks_idConnections ▸ hi)
  | _ => exact .inl hi

/-- Handling the UNSUBSCRIBE of a handle leaves the ids that other handles have taken alone. -/
def SparesReplacement (cfg : Config T) (me : Thread) (s : Server T Thread) (pc : WorkerPc T) :
    Prop :=
  ∀ evs s' pc', WorkerStep cfg me s pc evs s' pc' → ∀ hdl, pc.unsubscribing = some hdl →
    ∀ cid hdl', s.idConnections.lookup cid = some hdl' → hdl' ≠ hdl →
      s'.idConnections.lookup cid = some hdl' ∧
      (cid.player ∈ s.playersOf cid.session → cid.player ∈ s'.playersOf cid.session) ∧
      .handleClose cid ∉ evs

/-- The section under `m_connection_lock` may only unbind the handle it was called for, and
the later sections need the id to be unbound. -/
theorem sparesReplacement
    (hd : ∀ hdl cid, pc = .disconnecting hdl cid → s.idConnections.lookup cid = some hdl)
    (hl : ∀ hdl cid, pc = .leaving hdl cid ∨ pc = .closing hdl cid →
      s.idConnections.lookup cid = none) :
    SparesReplacement cfg me s pc := by
  intro evs s' pc' h hdl hu cid hdl' hi hne
  cases h with
  | unsubscribeUnbound ht hc | unsubscribeBound ht hc | uncount => exact ⟨hi, id, List.not_mem_nil⟩
  | @disconnectConnection _ h₀ cid₀ =>
    cases hu
    have hc : cid ≠ cid₀ := by
      intro he
      subst he
      rw [hd _ _ rfl] at hi
      exact hne (Option.some.inj hi).symm
    refine ⟨?_, id, List.not_mem_nil⟩
    rw [Server.disconnectConnection, Map.lookup_erase_ite, if_neg hc]
    exact hi
  | disconnectSession hn =>
    refine ⟨by rw [Server.disconnectSession_idConnections]; exact hi, fun hp => ?_,
      List.not_mem_nil⟩
    apply (s.mem_playersOf_disconnectSession _).2 ⟨hp, fun he => ?_⟩
    have hnone := hl _ _ (.inl rfl)
    rw [← he, hi] at hnone
    cases hnone
  | handleClose =>
    refine ⟨hi, id, fun he => ?_⟩
    cases List.mem_singleton.1 he
    rw [hl _ _ (.inr rfl)] at hi
    cases hi
  | subscribe ht | messageUnbound ht hc | messageBound ht hc | outMessage ht =>
    simp only [WorkerPc.unsubscribing, ht, reduceCtorEq, ↓reduceIte] at hu
  | closeConnection ht =>
    simp only [WorkerPc.unsubscribing, ht, reduceCtorEq, ↓reduceIte] at hu
  | _ => cases hu

theorem Bound.sparesReplacement (hb : Bound s pc) : SparesReplacement cfg me s pc := by
  apply WebGameServer.sparesReplacement
  · rintro hdl cid rfl
    exact (hb.inverse hdl cid).1 hb.fits
  · rintro hdl cid (rfl | rfl) <;> exact hb.fits

/-- The server drops only handles that the transport has closed: those of UNSUBSCRIBE actions,
queued or in the hands of the thread. -/
structure ClosedFirst (log : List (Event T)) (s : Server T Thread) (pc : WorkerPc T) : Prop where
  queued : ∀ a ∈ s.actions, a.type = .unsubscribe → .closed a.hdl ∈ log
  handled : ∀ hdl, pc.unsubscribing = some hdl → .closed hdl ∈ log

theorem ClosedFirst.move (h : ClosedFirst log s pc)
    (hq : ∀ a ∈ s'.actions, a.type = .unsubscribe → a ∈ s.actions)
    (hp : ∀ hdl, pc'.unsubscribing = some hdl → .closed hdl ∈ log) :
    ClosedFirst (log ++ evs) s' pc' where
  queued a hm hu := List.mem_append_left _ (h.queued a (hq a hm hu) hu)
  handled hdl hu := List.mem_append_left _ (hp hdl hu)

theorem WorkerStep.mem_actions (h : WorkerStep cfg me s pc evs s' pc') (hm : a ∈ s'.actions) :
    a ∈ s.actions := by
  cases h with
  | pop ha | wakePop hr ha => exact ha ▸ List.mem_cons_of_mem _ hm
  | disconnectSession hn => exact Server.disconnectSession_actions s ▸ hm
  | lockedSession c hv hn hr | openSession c hv hn hl =>
    exact Server.updateSessionLocks_actions s ▸ hm
  | setupConnectionId => exact Server.setupConnectionId_actions s ▸ hm
  | _ => exact hm

theorem WorkerStep.closedFirst_other (h : WorkerStep cfg me s pc evs s' pc')
    (hc : ClosedFirst log s other) : ClosedFirst (log ++ evs) s' other :=
  hc.move (fun _ hm _ => h.mem_actions hm) hc.handled

theorem WorkerStep.closedFirst (h : WorkerStep cfg me s pc evs s' pc')
    (hc : ClosedFirst log s pc) : ClosedFirst (log ++ evs) s' pc' := by
  apply hc.move (fun _ hm _ => h.mem_actions hm)
  intro hdl hu
  cases h with
  | pop ha | wakePop hr ha =>
    simp only [WorkerPc.unsubscribing] at hu
    split at hu
    · next ht =>
      cases hu
      exact hc.queued _ (ha ▸ List.mem_cons_self) ht
    · cases hu
  | unsubscribeBound ht hi =>
    cases hu
    exact hc.handled _ (if_pos ht)
  | disconnectConnection | disconnectSession hn | uncount => exact hc.handled _ hu
  | _ => cases hu

theorem TransportStep.closedFirst (h : TransportStep s evs s') (hc : ClosedFirst log s pc) :
    ClosedFirst (log ++ evs) s' pc := by
  refine ⟨fun a hm hu => ?_, fun hdl hu => List.mem_append_left _ (hc.handled hdl hu)⟩
  cases h with
  | onOpenStopped hdl hr => exact List.mem_append_left _ (hc.queued a hm hu)
  | onOpen hdl hr | onMessage hdl msg | onClose hdl =>
    rcases List.mem_append.1 hm with hm | hm
    · exact List.mem_append_left _ (hc.queued a hm hu)
    · cases List.mem_singleton.1 hm
      first
        | exact List.mem_append_right _ (List.mem_singleton.2 rfl)
        | cases hu

theorem CallerStep.closedFirst (h : CallerStep cfg me s cpc evs s' cpc')
    (hc : ClosedFirst log s pc) : ClosedFirst (log ++ evs) s' pc := by
  apply hc.move ?_ hc.handled
  intro a hm hu
  cases h with
  | completeLocked c sid result hn hl | completeSession c sid result hn hl =>
    exact Server.updateSessionLocks_actions s ▸ hm
  | closePlayer | pushMessage =>
    apply (List.mem_append.1 hm).resolve_right
    intro hm
    cases List.mem_singleton.1 hm
    cases hu
  | _ => exact hm

theorem ControlStep.closedFirst (h : ControlStep s kpc evs s' kpc')
    (hc : ClosedFirst log s pc) : ClosedFirst (log ++ evs) s' pc := by
  apply hc.move ?_ hc.handled
  intro a hm _
  cases h with
  | clearAll hn => cases hm
  | _ => exact hm

end Local

variable {T : Traits} {Worker Caller : Type} [DecidableEq Worker] [DecidableEq Caller]
  {cfg : Config T}

/-- The step is no part of a call of `stop`. -/
def NoStop (_ : System T Worker Caller) (evs : List (Event T)) (_ : System T Worker Caller) :
    Prop :=
  .stopping ∉ evs

omit [DecidableEq Worker] [DecidableEq Caller] in
theorem Bound.start (t : Int) :
    Bound (System.start t : System T Worker Caller).server .testing := by
  refine ⟨fun hdl cid => ⟨nofun, nofun⟩, trivial, fun cid _ => ?_, nofun, rfl⟩
  exact ⟨fun h => (Finset.notMem_empty _ h).elim, fun h => h.elim nofun nofun⟩

theorem bound_invariant : ((baseServer cfg).restrict NoStop).Invariant
    fun σ : System T Unit Caller => Bound σ.server (σ.worker ()) where
  init := by
    intro σ hinit
    obtain ⟨t, rfl⟩ := hinit
    exact .start t
  step _ hb h := by
    obtain ⟨h, hn⟩ := h
    cases h with
    | transport h => exact hb.same h.sameBindings
    | worker w h =>
      simp only [Function.update_self]
      exact h.bound hb
    | caller c h => exact hb.same h.sameBindings
    | control h => exact hb.same (h.sameBindings hn)

end WebGameServer
