import WebGameServer.BaseServer.Representation

namespace WebGameServer
set_option autoImplicit true

section Local

variable {T : Traits} {Thread : Type} {cfg : Config T} {me : Thread} {s s' : Server T Thread}
  {pc pc' : WorkerPc T} {log evs : List (Event T)}

/-- A worker has asked the transport to close the handle. -/
def Refused (log : List (Event T)) (hdl : T.Hdl) : Prop :=
  ∃ reason, reason ≠ .serverShutdown ∧ .closing hdl reason ∈ log

/-- What the only worker knows about the bindings, also when `stop` clears them under its
hands. -/
def WorkerPc.Linked (s : Server T Thread) : WorkerPc T → Prop
  | .disconnecting hdl cid => s.connectionIds.lookup hdl = some cid ∨
    (s.connectionIds.lookup hdl = none ∧ s.idConnections.lookup cid = none)
  | .opening hdl _ | .binding hdl _ _ => s.connectionIds.lookup hdl = none
  | _ => True

/-- The handle that `open_session` is binding or has bound. -/
def WorkerPc.bindingHdl : WorkerPc T → Option T.Hdl
  | .binding hdl _ _ | .entering hdl _ _ => some hdl
  | _ => none

/-- The bindings are inverse to each other, and no login of a refused handle is under way. -/
structure Turned (log : List (Event T)) (s : Server T Thread) (pc : WorkerPc T) : Prop where
  inverse : Map.Inverse s.connectionIds s.idConnections
  linked : pc.Linked s
  welcome : ∀ hdl, pc.bindingHdl = some hdl → ¬ Refused log hdl

theorem Refused.of_append (h : Refused (log ++ evs) hdl) : Refused log hdl ∨ Refused evs hdl := by
  obtain ⟨reason, hr, hm⟩ := h
  exact (List.mem_append.1 hm).imp (fun hm => ⟨reason, hr, hm⟩) fun hm => ⟨reason, hr, hm⟩

theorem TransportStep.refuses_nobody (h : TransportStep s evs s') (hdl : T.Hdl) :
    ¬ Refused evs hdl := by
  rintro ⟨reason, hr, hm⟩
  exact hr (of_decide_eq_true (h.shows _ hm))

theorem CallerStep.refuses_nobody (h : CallerStep cfg me s cpc evs s' cpc') (hdl : T.Hdl) :
    ¬ Refused evs hdl := by
  rintro ⟨reason, -, hm⟩
  exact notMem_of_shows h.shows rfl hm

theorem ControlStep.refuses_nobody (h : ControlStep s kpc evs s' kpc') (hdl : T.Hdl) :
    ¬ Refused evs hdl := by
  rintro ⟨reason, -, hm⟩
  exact notMem_of_shows h.shows rfl hm

theorem Turned.move (h : Turned log s pc) (hevs : ∀ hdl, ¬ Refused evs hdl)
    (hc : s'.connectionIds = s.connectionIds) (hi : s'.idConnections = s.idConnections) :
    Turned (log ++ evs) s' pc where
  inverse := by
    rw [hc, hi]
    exact h.inverse
  linked := by
    have hl := h.linked
    cases pc <;> simp only [WorkerPc.Linked, hc, hi] at hl ⊢ <;> exact hl
  welcome hdl hp hr := hr.of_append.elim (h.welcome hdl hp) (hevs hdl)

theorem Turned.clearAll (h : Turned log s pc) (hevs : ∀ hdl, ¬ Refused evs hdl) :
    Turned (log ++ evs) s.clearAll pc where
  inverse _ _ := ⟨nofun, nofun⟩
  linked := by
    cases pc with
    | disconnecting hdl cid => exact .inr ⟨rfl, rfl⟩
    | opening hdl token | binding hdl cid data => rfl
    | _ => trivial
  welcome hdl hp hr := hr.of_append.elim (h.welcome hdl hp) (hevs hdl)

theorem Turned.advance (h : Turned log s pc) (hc : s'.connectionIds = s.connectionIds)
    (hi : s'.idConnections = s.idConnections) (hl : pc'.Linked s') (hb : pc'.bindingHdl = none) :
    Turned log' s' pc' where
  inverse := by
    rw [hc, hi]
    exact h.inverse
  linked := hl
  welcome hdl hp := by
    rw [hb] at hp
    cases hp

theorem Turned.disconnectConnection (h : Turned log s (.disconnecting hdl cid)) :
    Turned log' (s.disconnectConnection hdl cid) (.leaving hdl cid) := by
  refine ⟨?_, trivial, nofun⟩
  rcases h.linked with hb | ⟨hn, hu⟩
  · exact h.inverse.erase hb
  · simp only [Server.disconnectConnection, Map.erase_absent _ hn, Map.erase_absent _ hu]
    exact h.inverse

theorem Turned.not_duplicate (h : Turned log s (.binding hdl cid data))
    (ho : s.duplicateOf cid = some old) : old ≠ hdl := by
  rintro rfl
  have hn : s.connectionIds.lookup old = none := h.linked
  rw [(h.inverse old cid).2 ho] at hn
  cases hn

theorem Turned.setupConnectionId (h : Turned log s (.binding hdl cid data)) :
    Turned (log ++ (s.duplicateOf cid).toList.map fun old => .closing old .duplicateConnection)
      (s.setupConnectionId hdl cid) (.entering hdl cid data) := by
  refine ⟨s.inverse_setupConnectionId h.inverse h.linked cid, trivial, ?_⟩
  rintro hdl' he hr
  cases he
  rcases hr.of_append with hr | ⟨reason, -, hm⟩
  · exact h.welcome hdl rfl hr
  · obtain ⟨old, ho, he⟩ := List.mem_map.1 hm
    cases he
    exact h.not_duplicate (Option.mem_toList.1 ho) rfl

theorem WorkerStep.turned (h : WorkerStep cfg me s pc evs s' pc') (ht : Turned log s pc)
    (haway : ∀ hdl token cid data, pc = .opening hdl token → pc' ≠ .opening hdl token →
      Refused log hdl → cfg.verify token = some (cid, data) → s'.isLocked cid.session = true) :
    Turned (log ++ evs) s' pc' := by
  cases h with
  | unsubscribeBound hu hi => exact ht.advance rfl rfl (.inl hi) rfl
  | disconnectConnection => exact ht.disconnectConnection
  | disconnectSession hn =>
    exact ht.advance (Server.disconnectSession_connectionIds s)
      (Server.disconnectSession_idConnections s) trivial rfl
  | messageUnbound hu hn => exact ht.advance rfl rfl hn rfl
  | lockedSession c hv hn hr =>
    exact ht.advance (Server.updateSessionLocks_connectionIds s)
      (Server.updateSessionLocks_idConnections s) trivial rfl
  | openSession c hv hn hl =>
    constructor
    · simp only [Server.updateSessionLocks_connectionIds, Server.updateSessionLocks_idConnections]
      exact ht.inverse
    · simp only [WorkerPc.Linked, Server.updateSessionLocks_connectionIds]
      exact ht.linked
    · rintro hdl' he hr
      cases he
      rw [List.append_nil] at hr
      have hlocked := haway _ _ _ _ rfl (fun he => by cases he) hr hv
      exact Bool.noConfusion (hl.symm.trans hlocked)
  | setupConnectionId => exact ht.setupConnectionId
  | handleOpen => exact ht.advance rfl rfl trivial rfl
  | _ => exact ht.advance rfl rfl trivial rfl

theorem ControlStep.turned (h : ControlStep s kpc evs s' kpc') (ht : Turned log s pc) :
    Turned (log ++ evs) s' pc := by
  have hevs := h.refuses_nobody
  cases h with
  | run hr | stop hr | notifyAll => exact ht.move hevs rfl rfl
  | clearAll hn => exact ht.clearAll hevs

theorem ControlStep.id_bound_by (h : ControlStep s kpc evs s' kpc')
    (hi : s'.idConnections.lookup cid = some hdl) : s.idConnections.lookup cid = some hdl := by
  cases h with
  | run hr | stop hr | notifyAll => exact hi
  | clearAll hn => cases hi

end Local

section Run

variable {T : Traits} {Caller : Type} [DecidableEq Caller] {cfg : Config T}
  {σ σ' τ υ : System T Unit Caller}

/-- When `open_session` is run for a message of a refused handle, the message is no valid token
of a session that is not locked. -/
def TurnsAway (cfg : Config T) (σ : System T Unit Caller) (_ : List (Event T))
    (σ' : System T Unit Caller) : Prop :=
  ∀ hdl token cid data, σ.worker () = .opening hdl token → σ'.worker () ≠ .opening hdl token →
    Refused σ.log hdl → cfg.verify token = some (cid, data) →
    σ'.server.isLocked cid.session = true

theorem turned_invariant : ((baseServer cfg).restrict (TurnsAway cfg)).Invariant
    fun σ : System T Unit Caller => Turned σ.log σ.server (σ.worker ()) where
  init := by
    intro σ hinit
    obtain ⟨t, rfl⟩ := hinit
    exact ⟨fun hdl cid => ⟨nofun, nofun⟩, trivial, nofun⟩
  step _ ht h := by
    obtain ⟨h, haway⟩ := h
    cases h with
    | transport h =>
      exact ht.move h.refuses_nobody h.sameBindings.connectionIds h.sameBindings.idConnections
    | worker w h =>
      simp only [TurnsAway, Function.update_self] at haway ⊢
      exact h.turned ht haway
    | caller c h =>
      exact ht.move h.refuses_nobody h.sameBindings.connectionIds h.sameBindings.idConnections
    | control h => exact h.turned ht

/-- The step closes the handle for an invalid token, as a duplicate or because the session of
its login is complete. -/
def Refuses (σ : System T Unit Caller) (evs : List (Event T)) (hdl : T.Hdl) : Prop :=
  Refused evs hdl ∧ ∀ a, σ.worker () ≠ .handling a

theorem Step.id_bound_by (h : Step cfg σ evs σ')
    (hi : σ'.server.idConnections.lookup cid = some hdl) :
    σ.server.idConnections.lookup cid = some hdl ∨ (σ.worker ()).bindingHdl = some hdl := by
  cases h with
  | transport h => exact .inl (h.sameBindings.idConnections ▸ hi)
  | worker w h =>
    apply (h.id_bound_by hi).imp_right
    rintro ⟨data, hb⟩
    rw [show σ.worker () = σ.worker w from rfl, hb]
    rfl
  | caller c h => exact .inl (h.sameBindings.idConnections ▸ hi)
  | control h => exact .inl (h.id_bound_by hi)

theorem Turned.binds_no_refused (ht : Turned σ.log σ.server (σ.worker ()))
    (h : Step cfg σ evs σ') (hr : Refused σ.log hdl)
    (hi : σ'.server.idConnections.lookup cid = some hdl) :
    σ.server.idConnections.lookup cid = some hdl :=
  (h.id_bound_by hi).resolve_right fun hb => ht.welcome hdl hb hr

theorem Turned.unbound_by_refusal (ht : Turned σ.log σ.server (σ.worker ()))
    (h : Step cfg σ evs σ') (hr : Refuses σ evs hdl) :
    σ'.server.connectionIds.lookup hdl = none := by
  obtain ⟨⟨reason, hreason, hm⟩, hw⟩ := hr
  have hno (hevs : ∀ a, ¬ Refused evs a) {P : Prop} : P := (hevs hdl ⟨reason, hreason, hm⟩).elim
  cases h with
  | transport h => exact hno h.refuses_nobody
  | caller c h => exact hno h.refuses_nobody
  | control h => exact hno h.refuses_nobody
  | worker w h =>
    have hlinked := ht.linked
    generalize σ.worker () = pc at h hw hlinked ht
    cases h with
    | invalidToken hv =>
      cases List.mem_singleton.1 hm
      exact hlinked
    | lockedSession c hv hn hl =>
      rw [Server.updateSessionLocks_connectionIds]
      simp only [List.mem_cons, reduceCtorEq, Event.closing.injEq, List.not_mem_nil, or_false,
        false_or] at hm
      rw [hm.1]
      exact hlinked
    | setupConnectionId =>
      obtain ⟨old, ho, he⟩ := List.mem_map.1 hm
      cases he
      have ho' : σ.server.idConnections.lookup _ = some hdl := Option.mem_toList.1 ho
      rw [Server.lookup_connectionIds_setup _ hlinked, if_neg (ht.not_duplicate ho'), if_pos ho']
    | closeConnection hc => exact (hw _ rfl).elim
    | _ => simp only [List.mem_cons, reduceCtorEq, List.not_mem_nil, or_false] at hm

/-- In an earlier step the id was bound to the handle, and no close had been requested on the
handle then. -/
def BoundWelcome (cfg : Config T) (σ : System T Unit Caller) (cid : CombinedId T)
    (hdl : T.Hdl) : Prop :=
  ∃ τ evs τ' ls, ((baseServer cfg).restrict (TurnsAway cfg)).Reachable τ ∧
    ((baseServer cfg).restrict (TurnsAway cfg)).step τ evs τ' ∧
    ((baseServer cfg).restrict (TurnsAway cfg)).Run τ' ls σ ∧
    ¬ Refused τ.log hdl ∧ τ.server.idConnections.lookup cid ≠ some hdl ∧
    τ'.server.idConnections.lookup cid = some hdl

theorem boundWelcome_invariant : ((baseServer cfg).restrict (TurnsAway cfg)).Invariant
    fun σ : System T Unit Caller =>
      ∀ cid hdl, σ.server.idConnections.lookup cid = some hdl → BoundWelcome cfg σ cid hdl where
  init := by
    intro σ hinit cid hdl hi
    obtain ⟨t, rfl⟩ := hinit
    cases hi
  step {σ evs σ'} hr hσ h := by
    intro cid hdl hi
    by_cases hb : σ.server.idConnections.lookup cid = some hdl
    · obtain ⟨τ, evs', τ', ls, hτ, hs, hrun, hbound⟩ := hσ cid hdl hb
      exact ⟨τ, evs', τ', _, hτ, hs, hrun.snoc h, hbound⟩
    · have ht := turned_invariant.reachable hr
      refine ⟨σ, evs, σ', [], hr, h, .nil, fun hrefused => ?_, hb, hi⟩
      exact hb (ht.binds_no_refused h.1 hrefused hi)

theorem Refused.step (hr : Refused σ.log hdl) (h : Step cfg σ evs σ') : Refused σ'.log hdl := by
  obtain ⟨reason, hreason, hm⟩ := hr
  rw [h.log]
  exact ⟨reason, hreason, List.mem_append_left _ hm⟩

theorem Refused.stays_unbound (hr : Refused σ.log hdl)
    (hσ : ((baseServer cfg).restrict (TurnsAway cfg)).Reachable σ)
    (hrun : ((baseServer cfg).restrict (TurnsAway cfg)).Run σ ls υ)
    (hn : ∀ cid, σ.server.idConnections.lookup cid ≠ some hdl) :
    ∀ cid, υ.server.idConnections.lookup cid ≠ some hdl := by
  have hkept := hrun.preserves
    (I := fun τ => Refused τ.log hdl ∧ ∀ cid, τ.server.idConnections.lookup cid ≠ some hdl)
    (P := fun _ => True) hσ ?_ ⟨hr, hn⟩
  · exact hkept.1.2
  · rintro τ evs τ' hτ ⟨hr, hn⟩ h
    refine ⟨⟨hr.step h.1, fun cid hi => hn cid ?_⟩, trivial⟩
    exact (turned_invariant.reachable hτ).binds_no_refused h.1 hr hi

theorem WorkerStep.binding_of_duplicate {s s' : Server T Thread}
    (h : WorkerStep cfg me s pc evs s' pc') (hm : .closing old .duplicateConnection ∈ evs) :
    ∃ hdl, pc.bindingHdl = some hdl := by
  cases h with
  | setupConnectionId => exact ⟨_, rfl⟩
  | _ => simp only [List.mem_cons, reduceCtorEq, Event.closing.injEq, and_false,
      List.not_mem_nil, or_false] at hm

/-- With one worker, whenever each message of a refused handle is turned away: no step binds a
handle on which the server has requested a close or calls `m_handle_open` for it; a handle
refused at login or as a duplicate is unbound from then on; every bound handle was not refused
when it was bound; and no refused handle evicts another one. -/
theorem refused_connection_stays_unbound
    (hσ : ((baseServer cfg).restrict (TurnsAway cfg)).Reachable σ) :
    (∀ evs τ, ((baseServer cfg).restrict (TurnsAway cfg)).step σ evs τ → ∀ hdl,
      Refused σ.log hdl →
        (∀ cid, τ.server.connectionIds.lookup hdl = some cid →
          σ.server.connectionIds.lookup hdl = some cid) ∧
        (∀ cid, τ.server.idConnections.lookup cid = some hdl →
          σ.server.idConnections.lookup cid = some hdl) ∧
        ∀ cid data, σ.worker () ≠ .entering hdl cid data) ∧
    (∀ evs τ, ((baseServer cfg).restrict (TurnsAway cfg)).step σ evs τ → ∀ hdl,
      Refuses σ evs hdl → ∀ ls υ, ((baseServer cfg).restrict (TurnsAway cfg)).Run τ ls υ →
        υ.server.connectionIds.lookup hdl = none ∧
        ∀ cid, υ.server.idConnections.lookup cid ≠ some hdl) ∧
    (∀ cid hdl, σ.server.idConnections.lookup cid = some hdl → BoundWelcome cfg σ cid hdl) ∧
    ∀ evs τ, ((baseServer cfg).restrict (TurnsAway cfg)).step σ evs τ → ∀ old,
      .closing old .duplicateConnection ∈ evs →
        ∃ hdl, (σ.worker ()).bindingHdl = some hdl ∧ ¬ Refused σ.log hdl := by
  have ht := turned_invariant.reachable hσ
  refine ⟨fun evs τ h hdl hr => ?_, fun evs τ h hdl hr ls υ hrun => ?_,
    boundWelcome_invariant.reachable hσ, fun evs τ h old hm => ?_⟩
  · have ht' := turned_invariant.reachable (hσ.step h)
    have hid cid (hi : τ.server.idConnections.lookup cid = some hdl) :=
      ht.binds_no_refused h.1 hr hi
    refine ⟨fun cid hc => ?_, hid, fun cid data he => ht.welcome hdl ?_ hr⟩
    · exact (ht.inverse hdl cid).2 (hid cid ((ht'.inverse hdl cid).1 hc))
    · rw [he]
      rfl
  · have hυ := turned_invariant.reachable ((hσ.step h).run hrun)
    have ht' := turned_invariant.reachable (hσ.step h)
    have hunbound := ht.unbound_by_refusal h.1 hr
    have hn : ∀ cid, τ.server.idConnections.lookup cid ≠ some hdl := by
      intro cid hi
      rw [(ht'.inverse hdl cid).2 hi] at hunbound
      cases hunbound
    have hrefused : Refused τ.log hdl := by
      obtain ⟨reason, hreason, hm⟩ := hr.1
      rw [h.1.log]
      exact ⟨reason, hreason, List.mem_append_right _ hm⟩
    have hn' := hrefused.stays_unbound (hσ.step h) hrun hn
    refine ⟨?_, hn'⟩
    cases hc : υ.server.connectionIds.lookup hdl with
    | none => rfl
    | some cid => exact (hn' cid ((hυ.inverse hdl cid).1 hc)).elim
  · have hno (hevs : ∀ a, ¬ Refused evs a) {P : Prop} : P :=
      (hevs old ⟨.duplicateConnection, nofun, hm⟩).elim
    obtain ⟨h, -⟩ := h
    cases h with
    | transport h => exact hno h.refuses_nobody
    | worker w h =>
      obtain ⟨hdl, hb⟩ := h.binding_of_duplicate hm
      exact ⟨hdl, hb, ht.welcome hdl hb⟩
    | caller c h => exact hno h.refuses_nobody
    | control h => exact hno h.refuses_nobody

end Run

/-- A message of the replaced handle 5, queued before its replacement by handle 6, takes the id
back and evicts handle 6. -/
theorem refused_connection_rebinds :
    ∃ (σ τ : System natTraits Unit Unit) (evs : List (Event natTraits)),
      ((baseServer natConfig).restrict Undisturbed).Reachable σ ∧
      ((baseServer natConfig).restrict Undisturbed).step σ evs τ ∧
      .closing (5 : Nat) .duplicateConnection ∈ σ.log ∧
      σ.server.idConnections.lookup ⟨1, 7⟩ = some 6 ∧
      τ.server.idConnections.lookup ⟨1, 7⟩ = some 5 ∧
      .closing (6 : Nat) .duplicateConnection ∈ evs := by
  have h0 : ((baseServer natConfig).restrict Undisturbed).Reachable
      (System.start 0 : System natTraits Unit Unit) := .init ⟨0, rfl⟩
  have h1 := h0.step ⟨.control (.run rfl), by simp [undisturbed_iff]⟩
  have h2 := h1.step ⟨.transport (.onOpen (5 : Nat) rfl), by simp [undisturbed_iff]⟩
  have h3 := h2.step ⟨.transport (.onOpen (6 : Nat) rfl), by simp [undisturbed_iff]⟩
  have h4 := h3.step ⟨.transport (.onMessage (5 : Nat) "ada"), by simp [undisturbed_iff]⟩
  have h5 := h4.step ⟨.transport (.onMessage (6 : Nat) "ada"), by simp [undisturbed_iff]⟩
  have h6 := h5.step ⟨.transport (.onMessage (5 : Nat) "ada"), by simp [undisturbed_iff]⟩
  have h7 := h6.worker () (.enter rfl)
  have h8 := h7.worker () (.pop rfl)
  have h9 := h8.worker () (.subscribe rfl)
  have h10 := h9.worker () (.enter rfl)
  have h11 := h10.worker () (.pop rfl)
  have h12 := h11.worker () (.subscribe rfl)
  have h13 := h12.worker () (.enter rfl)
  have h14 := h13.worker () (.pop rfl)
  have h15 := h14.worker () (.messageUnbound rfl rfl)
  have h16 := h15.worker () (.openSession ⟨0, 0⟩ rfl rfl rfl)
  have h17 := h16.worker () .setupConnectionId
  have h18 := h17.worker () .handleOpen
  have h19 := h18.worker () (.enter rfl)
  have h20 := h19.worker () (.pop rfl)
  have h21 := h20.worker () (.messageUnbound rfl rfl)
  have h22 := h21.worker () (.openSession ⟨0, 0⟩ rfl rfl rfl)
  have h23 := h22.worker () .setupConnectionId
  have h24 := h23.worker () .handleOpen
  have h25 := h24.worker () (.enter rfl)
  have h26 := h25.worker () (.pop rfl)
  have h27 := h26.worker () (.messageUnbound rfl rfl)
  have h28 := h27.worker () (.openSession ⟨0, 0⟩ rfl rfl rfl)
  refine ⟨_, _, _, h28, ⟨.worker () .setupConnectionId, by simp [undisturbed_iff]⟩, ?_, rfl, rfl,
    ?_⟩
  · simp [Server.duplicateOf, Server.setupConnectionId]
    decide
  · exact List.mem_map.2 ⟨(6 : Nat), Option.mem_toList.2 rfl, rfl⟩

/-- Handle 5 is refused for an invalid token. -/
theorem refused_connection_stays_unbound_invalid :
    ∃ τ : System natTraits Unit Unit, .closing (5 : Nat) .invalidJwt ∈ τ.log ∧
      ∀ cid, τ.server.idConnections.lookup cid ≠ some 5 := by
  have h0 : ((baseServer natConfig).restrict (TurnsAway natConfig)).Reachable
      (System.start 0 : System natTraits Unit Unit) := .init ⟨0, rfl⟩
  have h1 := h0.step ⟨.control (.run rfl), by rintro _ _ _ _ hp; cases hp⟩
  have h2 := h1.step ⟨.transport (.onMessage (5 : Nat) "x"), by rintro _ _ _ _ hp; cases hp⟩
  have h3 := h2.step ⟨.worker () (.enter rfl), by rintro _ _ _ _ hp; cases hp⟩
  have h4 := h3.step ⟨.worker () (.pop rfl), by rintro _ _ _ _ hp; cases hp⟩
  have h5 := h4.step ⟨.worker () (.messageUnbound rfl rfl), by rintro _ _ _ _ hp; cases hp⟩
  obtain ⟨-, hrefuses, -⟩ := refused_connection_stays_unbound h5
  have hunbound := hrefuses _ _ ⟨.worker () (.invalidToken rfl), by
    rintro _ _ _ _ hp - - hv
    cases hp
    cases hv⟩ (5 : Nat) ⟨⟨.invalidJwt, nofun, List.mem_singleton.2 rfl⟩, nofun⟩ _ _ .nil
  exact ⟨_, by simp, hunbound.2⟩

end WebGameServer
