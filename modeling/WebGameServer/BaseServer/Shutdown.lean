import WebGameServer.BaseServer.Bindings
import WebGameServer.BaseServer.SessionLock
import WebGameServer.BaseServer.Waiting

namespace WebGameServer
set_option autoImplicit true

section Local

variable {T : Traits} {Thread : Type} {cfg : Config T} {me : Thread} {s s' : Server T Thread}
  {pc pc' : WorkerPc T} {log evs : List (Event T)} {hdl : T.Hdl}

/-- The transport was asked to close the handle. -/
def CloseRequested (log : List (Event T)) (hdl : T.Hdl) : Prop :=
  (∃ reason, .closing hdl reason ∈ log) ∨ ∃ hdls, .shutdown hdls ∈ log ∧ hdl ∈ hdls

def WorkerPc.subscribing : WorkerPc T → Option T.Hdl
  | .handling a => if a.type = .subscribe then some a.hdl else none
  | _ => none

/-- The worker has popped a SUBSCRIBE action, or is in `player_disconnect` before
`--m_player_count`. -/
def WorkerPc.midway : WorkerPc T → Bool
  | .handling a => a.type = .subscribe
  | .disconnecting _ _ | .leaving _ _ | .uncounting _ _ => true
  | _ => false

def Held (s : Server T Thread) (pc : WorkerPc T) (hdl : T.Hdl) : Prop :=
  hdl ∈ s.newConnections ∨ hdl ∈ s.connectionIds.keys ∨
    (∃ a ∈ s.actions, a.type = .subscribe ∧ a.hdl = hdl) ∨ pc.subscribing = some hdl

def Accounted (log : List (Event T)) (s : Server T Thread) (pc : WorkerPc T) : Prop :=
  ∀ hdl, .opened hdl ∈ log → .closed hdl ∉ log → CloseRequested log hdl ∨ Held s pc hdl

structure Emptied (s : Server T Thread) (pc : WorkerPc T) : Prop where
  stopped : s.isRunning = false
  newConnections : s.newConnections = ∅
  connectionIds : s.connectionIds = ∅
  idConnections : s.idConnections = ∅
  sessionPlayers : s.sessionPlayers = ∅
  playerCount : s.playerCount = 0
  queued : ∀ a ∈ s.actions, a.type ≠ .subscribe
  done : pc.midway = false
  unguarded : pc.guarded = none

theorem CloseRequested.append_left (h : CloseRequested log hdl) :
    CloseRequested (log ++ evs) hdl := by
  rcases h with ⟨reason, hm⟩ | ⟨hdls, hm, hh⟩
  · exact .inl ⟨reason, List.mem_append_left _ hm⟩
  · exact .inr ⟨hdls, List.mem_append_left _ hm, hh⟩

theorem CloseRequested.append_right (h : CloseRequested evs hdl) :
    CloseRequested (log ++ evs) hdl := by
  rcases h with ⟨reason, hm⟩ | ⟨hdls, hm, hh⟩
  · exact .inl ⟨reason, List.mem_append_right _ hm⟩
  · exact .inr ⟨hdls, List.mem_append_right _ hm, hh⟩

theorem Accounted.move (h : Accounted log s pc) (hevs : ∀ hdl, .opened hdl ∉ evs)
    (hheld : ∀ hdl, .closed hdl ∉ log → Held s pc hdl →
      CloseRequested evs hdl ∨ Held s' pc' hdl) :
    Accounted (log ++ evs) s' pc' := by
  intro hdl ho hc
  have hc' : .closed hdl ∉ log := fun hm => hc (List.mem_append_left _ hm)
  have ho' : .opened hdl ∈ log := (List.mem_append.1 ho).resolve_right (hevs hdl)
  rcases h hdl ho' hc' with hr | hh
  · exact .inl hr.append_left
  · exact (hheld hdl hc' hh).imp_left fun hr => hr.append_right

theorem Accounted.same (h : Accounted log s pc) (hevs : ∀ hdl, .opened hdl ∉ evs)
    (hnew : s'.newConnections = s.newConnections) (hids : s'.connectionIds = s.connectionIds)
    (hactions : ∀ a ∈ s.actions, a.type = .subscribe → a ∈ s'.actions)
    (hsub : pc'.subscribing = pc.subscribing) : Accounted (log ++ evs) s' pc' := by
  apply h.move hevs
  intro hdl _ hh
  simp only [Held, hnew, hids, hsub] at hh ⊢
  refine .inr (hh.imp_right (Or.imp_right (Or.imp_left ?_)))
  rintro ⟨a, hm, ht, he⟩
  exact ⟨a, hactions a hm ht, ht, he⟩

theorem Accounted.pop (h : Accounted log s pc) (ha : s.actions = a :: rest)
    (hsub : pc.subscribing = none) :
    Accounted (log ++ [.took a]) { s with actions := rest } (.handling a) := by
  apply h.move
  · intro hdl hm
    cases List.mem_singleton.1 hm
  · rintro hdl - (hh | hh | ⟨b, hm, hb, he⟩ | hh)
    · exact .inr (.inl hh)
    · exact .inr (.inr (.inl hh))
    · rw [ha] at hm
      rcases List.mem_cons.1 hm with rfl | hm
      · refine .inr (.inr (.inr (.inr ?_)))
        rw [WorkerPc.subscribing, if_pos hb, he]
      · exact .inr (.inr (.inr (.inl ⟨b, hm, hb, he⟩)))
    · rw [hsub] at hh
      cases hh

/-- A bound handle is the one that is being bound or was bound before, if not as the duplicate. -/
theorem connectionIds_setup (s : Server T Thread) (hdl : T.Hdl) (cid : CombinedId T)
    (hm : a ∈ s.connectionIds.keys ∨ a = hdl) :
    s.duplicateOf cid = some a ∨ a ∈ (s.setupConnectionId hdl cid).connectionIds.keys := by
  simp only [Server.setupConnectionId]
  split
  · next old ho =>
    by_cases ha : a = old
    · exact .inl (ha ▸ ho)
    · refine .inr ?_
      simp only [Map.keys_emplace, Finmap.keys_erase]
      rcases hm with hm | rfl
      · exact Finset.mem_insert_of_mem (Finset.mem_erase.2 ⟨ha, hm⟩)
      · exact Finset.mem_insert_self _ _
  · refine .inr ?_
    simp only [Map.keys_emplace]
    rcases hm with hm | rfl
    · exact Finset.mem_insert_of_mem hm
    · exact Finset.mem_insert_self _ _

theorem Accounted.setupConnectionId (h : Accounted log s (.binding hdl cid data)) :
    Accounted (log ++ (s.duplicateOf cid).toList.map fun old => .closing old .duplicateConnection)
      (s.setupConnectionId hdl cid) (.entering hdl cid data) := by
  apply h.move
  · intro a hm
    obtain ⟨old, -, he⟩ := List.mem_map.1 hm
    cases he
  · intro a _ hh
    have bound (hm : a ∈ s.connectionIds.keys ∨ a = hdl) :
        CloseRequested ((s.duplicateOf cid).toList.map fun old =>
          .closing old .duplicateConnection) a ∨
        Held (s.setupConnectionId hdl cid) (.entering hdl cid data) a := by
      rcases connectionIds_setup s hdl cid hm with hd | hm
      · exact .inl (.inl ⟨_, List.mem_map.2 ⟨a, Option.mem_toList.2 hd, rfl⟩⟩)
      · exact .inr (.inr (.inl hm))
    rcases hh with hh | hh | ⟨b, hm, hb, he⟩ | hh
    · by_cases ha : a = hdl
      · exact bound (.inr ha)
      · refine .inr (.inl ?_)
        rw [Server.setupConnectionId_newConnections]
        exact Finset.mem_erase.2 ⟨ha, hh⟩
    · exact bound (.inl hh)
    · refine .inr (.inr (.inr (.inl ⟨b, ?_, hb, he⟩)))
      rw [Server.setupConnectionId_actions]
      exact hm
    · cases hh

theorem WorkerPc.not_subscribing {a : Action T} (h : a.type ≠ .subscribe) :
    (WorkerPc.handling a).subscribing = none :=
  if_neg h

theorem WorkerStep.accounted (h : WorkerStep cfg me s pc evs s' pc')
    (ha : Accounted log s pc) (hc : ClosedFirst log s pc) : Accounted (log ++ evs) s' pc' := by
  have hevs (hdl : T.Hdl) : .opened hdl ∉ evs := notMem_of_shows h.shows rfl
  cases h with
  | pop he | wakePop hr he => exact ha.pop he rfl
  | @subscribe a s hs =>
    apply ha.move hevs
    rintro hdl - (hh | hh | hh | hh)
    · exact .inr (.inl (Finset.mem_insert_of_mem hh))
    · exact .inr (.inr (.inl hh))
    · exact .inr (.inr (.inr (.inl hh)))
    · rw [WorkerPc.subscribing, if_pos hs] at hh
      cases hh
      exact .inr (.inl (Finset.mem_insert_self _ _))
  | @unsubscribeUnbound s a hu hn =>
    have hclosed : .closed a.hdl ∈ log := hc.handled a.hdl (if_pos hu)
    apply ha.move hevs
    rintro hdl hopen (hh | hh | hh | hh)
    · exact .inr (.inl (Finset.mem_erase.2 ⟨fun he => hopen (he ▸ hclosed), hh⟩))
    · exact .inr (.inr (.inl hh))
    · exact .inr (.inr (.inr (.inl hh)))
    · rw [WorkerPc.not_subscribing (by rw [hu]; decide)] at hh
      cases hh
  | @disconnectConnection s a cid =>
    have hclosed : .closed a ∈ log := hc.handled a rfl
    apply ha.move hevs
    rintro hdl hopen (hh | hh | hh | hh)
    · exact .inr (.inl hh)
    · refine .inr (.inr (.inl ?_))
      rw [Server.disconnectConnection, Finmap.keys_erase]
      exact Finset.mem_erase.2 ⟨fun he => hopen (he ▸ hclosed), hh⟩
    · exact .inr (.inr (.inr (.inl hh)))
    · cases hh
  | setupConnectionId => exact ha.setupConnectionId
  | unsubscribeBound hu hi | messageUnbound hu hi | messageBound hu hi | outMessage hu
  | closeConnection hu =>
    apply ha.same hevs rfl rfl (fun a hm _ => hm) ?_
    exact (WorkerPc.not_subscribing (by rw [hu]; decide)).symm
  | disconnectSession hn =>
    apply ha.same hevs (Server.disconnectSession_newConnections s)
      (Server.disconnectSession_connectionIds s) ?_ rfl
    intro a hm _
    exact (Server.disconnectSession_actions s).symm ▸ hm
  | lockedSession c hv hn hr | openSession c hv hn hl =>
    apply ha.same hevs (Server.updateSessionLocks_newConnections s)
      (Server.updateSessionLocks_connectionIds s) ?_ rfl
    intro a hm _
    exact (Server.updateSessionLocks_actions s).symm ▸ hm
  | _ => exact ha.same hevs rfl rfl (fun a hm _ => hm) rfl

theorem TransportStep.accounted (h : TransportStep s evs s') (ha : Accounted log s pc) :
    Accounted (log ++ evs) s' pc := by
  have quiet : (∀ hdl, .opened hdl ∉ evs) → Accounted (log ++ evs) s' pc := by
    intro hn
    apply ha.same hn h.sameBindings.newConnections h.sameBindings.connectionIds ?_ rfl
    intro a hm _
    cases h with
    | onOpenStopped hdl hr => exact hm
    | onOpen hdl hr | onMessage hdl msg | onClose hdl => exact List.mem_append_left _ hm
  cases h with
  | onOpen hdl hr =>
    intro a ho hc
    rcases List.mem_append.1 ho with ho | ho
    · rcases ha a ho (fun hm => hc (List.mem_append_left _ hm)) with hr | hh
      · exact .inl hr.append_left
      · refine .inr (hh.imp_right (Or.imp_right (Or.imp_left ?_)))
        rintro ⟨b, hm, hb, he⟩
        exact ⟨b, List.mem_append_left _ hm, hb, he⟩
    · cases List.mem_singleton.1 ho
      refine .inr (.inr (.inr (.inl ⟨{ type := .subscribe, hdl := hdl }, ?_, rfl, rfl⟩)))
      exact List.mem_append_right _ (List.mem_singleton.2 rfl)
  | onOpenStopped hdl hr =>
    intro a ho hc
    rcases List.mem_append.1 ho with ho | ho
    · rcases ha a ho (fun hm => hc (List.mem_append_left _ hm)) with hr | hh
      · exact .inl hr.append_left
      · exact .inr hh
    · refine .inl (.inl ⟨.serverShutdown, List.mem_append_right _ ?_⟩)
      rcases List.mem_cons.1 ho with he | ho
      · cases he
        exact List.mem_cons_of_mem _ List.mem_cons_self
      · cases List.mem_singleton.1 ho
  | onMessage hdl msg | onClose hdl =>
    apply quiet
    intro a hm
    cases List.mem_singleton.1 hm

theorem CallerStep.mem_actions (h : CallerStep cfg me s cpc evs s' cpc')
    (ha : a.type = .subscribe) : a ∈ s'.actions ↔ a ∈ s.actions := by
  cases h with
  | completeLocked c sid result hn hl | completeSession c sid result hn hl =>
    exact iff_of_eq (congrArg (a ∈ ·) (Server.updateSessionLocks_actions s))
  | closePlayer | pushMessage =>
    apply List.mem_append.trans (or_iff_left fun hm => ?_)
    cases List.mem_singleton.1 hm
    cases ha
  | _ => exact .rfl

theorem CallerStep.accounted (h : CallerStep cfg me s cpc evs s' cpc')
    (ha : Accounted log s pc) : Accounted (log ++ evs) s' pc := by
  have hevs (hdl : T.Hdl) : .opened hdl ∉ evs := notMem_of_shows h.shows rfl
  have hbindings := h.sameBindings
  exact ha.same hevs hbindings.newConnections hbindings.connectionIds
    (fun a hm ht => (h.mem_actions ht).2 hm) rfl

theorem WorkerPc.subscribing_of_not_midway (h : pc.midway = false) : pc.subscribing = none := by
  cases pc with
  | handling a => exact WorkerPc.not_subscribing (of_decide_eq_false h)
  | _ => rfl

theorem Held.mem_openHdls (h : Held s pc hdl) (hsub : pc.subscribing = none) :
    hdl ∈ s.openHdls := by
  simp only [Server.openHdls, Finset.mem_union, List.mem_toFinset, List.mem_map, List.mem_filter]
  rcases h with hh | hh | ⟨a, hm, ht, he⟩ | hh
  · exact .inl (.inl hh)
  · exact .inl (.inr hh)
  · exact .inr ⟨a, ⟨hm, decide_eq_true (.inl ht)⟩, he⟩
  · rw [hsub] at hh
    cases hh

theorem ControlStep.accounted (h : ControlStep s kpc evs s' kpc') (ha : Accounted log s pc)
    (hidle : ∀ hdls, .shutdown hdls ∈ evs → pc.midway = false) :
    Accounted (log ++ evs) s' pc := by
  have hevs (hdl : T.Hdl) : .opened hdl ∉ evs := notMem_of_shows h.shows rfl
  cases h with
  | clearAll hn =>
    have hm : .shutdown s.openHdls ∈ [Event.stopping, .shutdown s.openHdls] :=
      List.mem_cons_of_mem _ List.mem_cons_self
    have hsub := WorkerPc.subscribing_of_not_midway (hidle _ hm)
    apply ha.move hevs
    intro hdl _ hh
    exact .inl (.inr ⟨s.openHdls, hm, hh.mem_openHdls hsub⟩)
  | _ => exact ha.same hevs rfl rfl (fun _ hm _ => hm) rfl

/-- A step that leaves the containers and the counter alone and pushes no SUBSCRIBE. -/
theorem Emptied.move (h : Emptied s pc) (hs : SameBindings s s')
    (hr : s'.isRunning = s.isRunning)
    (hq : ∀ a ∈ s'.actions, a.type = .subscribe → a ∈ s.actions)
    (hd : pc'.midway = false) (hg : pc'.guarded = none) : Emptied s' pc' where
  stopped := hr.trans h.stopped
  newConnections := hs.newConnections.trans h.newConnections
  connectionIds := hs.connectionIds.trans h.connectionIds
  idConnections := hs.idConnections.trans h.idConnections
  sessionPlayers := hs.sessionPlayers.trans h.sessionPlayers
  playerCount := hs.playerCount.trans h.playerCount
  queued a hm ht := h.queued a (hq a hm ht) ht
  done := hd
  unguarded := hg

theorem Emptied.pop (h : Emptied s pc) (ha : s.actions = a :: rest) :
    Emptied { s with actions := rest } (.handling a) := by
  have hd : (WorkerPc.handling a).midway = false :=
    decide_eq_false (h.queued a (ha ▸ List.mem_cons_self))
  refine h.move ⟨rfl, rfl, rfl, rfl, rfl⟩ rfl (fun b hb _ => ?_) hd rfl
  exact ha ▸ List.mem_cons_of_mem a hb

theorem Emptied.unbound (h : Emptied s pc) (hdl : T.Hdl) :
    s.connectionIds.lookup hdl ≠ some cid := by
  rw [h.connectionIds]
  intro hl
  cases hl

theorem WorkerStep.emptied (h : WorkerStep cfg me s pc evs s' pc') (he : Emptied s pc)
    (hb : ∀ hdl cid data, pc' ≠ .binding hdl cid data) : Emptied s' pc' := by
  have hd := he.done
  have hg := he.unguarded
  have hs : SameBindings s s := .refl s
  cases h with
  | pop ha | wakePop hr ha => exact he.pop ha
  | subscribe ht => exact (of_decide_eq_false hd ht).elim
  | unsubscribeUnbound ht hl =>
    refine he.move ⟨?_, rfl, rfl, rfl, rfl⟩ rfl (fun a hm _ => hm) rfl rfl
    rw [he.newConnections, Finset.erase_empty]
  | unsubscribeBound ht hl | messageBound ht hl => exact (he.unbound _ hl).elim
  | disconnectConnection | disconnectSession hn | uncount => cases hd
  | lockedSession c hv hn hr =>
    apply he.move (.updateSessionLocks s) s.updateSessionLocks_isRunning ?_ rfl rfl
    intro a hm ht
    exact (Server.updateSessionLocks_actions s) ▸ hm
  | openSession c hv hn hl => exact (hb _ _ _ rfl).elim
  | setupConnectionId | handleOpen => cases hg
  | _ => exact he.move hs rfl (fun a hm _ => hm) rfl rfl

theorem TransportStep.emptied (h : TransportStep s evs s') (he : Emptied s pc) :
    Emptied s' pc := by
  have hstopped := he.stopped
  apply he.move h.sameBindings
  · cases h <;> rfl
  · intro a hm ht
    cases h with
    | onOpen hdl hr =>
      rw [hstopped] at hr
      cases hr
    | onOpenStopped hdl hr => exact hm
    | onMessage hdl msg | onClose hdl =>
      apply (List.mem_append.1 hm).resolve_right
      intro hp
      cases List.mem_singleton.1 hp
      cases ht
  · exact he.done
  · exact he.unguarded

theorem CallerStep.emptied (h : CallerStep cfg me s cpc evs s' cpc') (he : Emptied s pc) :
    Emptied s' pc :=
  he.move h.sameBindings h.isRunning (fun _ hm ht => (h.mem_actions ht).1 hm) he.done
    he.unguarded

theorem Emptied.not_held (h : Emptied s pc) (hdl : T.Hdl) : ¬Held s pc hdl := by
  rintro (hh | hh | ⟨a, hm, ht, he⟩ | hh)
  · rw [h.newConnections] at hh
    exact Finset.notMem_empty hdl hh
  · rw [h.connectionIds] at hh
    exact Finset.notMem_empty hdl hh
  · exact h.queued a hm ht
  · rw [WorkerPc.subscribing_of_not_midway h.done] at hh
    cases hh

/-- What the section under the three locks leaves, if the worker is at no such point. -/
theorem Emptied.clearAll (hs : s.isRunning = false) (hd : pc.midway = false)
    (hg : pc.guarded = none) : Emptied s.clearAll pc where
  stopped := hs
  newConnections := rfl
  connectionIds := rfl
  idConnections := rfl
  sessionPlayers := rfl
  playerCount := rfl
  queued a hm := by cases hm
  done := hd
  unguarded := hg

structure Stopped (log : List (Event T)) (s : Server T Thread) (kpc : ControlPc) : Prop where
  halted : .stopping ∈ log → s.isRunning = false
  called : kpc ≠ .idle → .stopping ∈ log
  begun : ∀ hdls, .shutdown hdls ∈ log → .stopping ∈ log
  swept : kpc ≠ .stopping → .stopping ∈ log → ∃ hdls, .shutdown hdls ∈ log

def Event.stops : Event T → Bool
  | .stopping | .shutdown _ => true
  | _ => false

theorem Origin.unstopped {o : Origin} (ho : o ≠ .control)
    (h : ∀ e ∈ evs, o.shows e = true) (e : Event T) (he : e ∈ evs) : e.stops = false := by
  have hs := h e he
  cases e with
  | stopping | shutdown hdls =>
    cases o with
    | control => exact (ho rfl).elim
    | _ => cases hs
  | _ => rfl

theorem TransportStep.unstopped (h : TransportStep s evs s') : ∀ e ∈ evs, e.stops = false :=
  Origin.unstopped (by decide) h.shows

theorem WorkerStep.unstopped (h : WorkerStep cfg me s pc evs s' pc') :
    ∀ e ∈ evs, e.stops = false :=
  Origin.unstopped (by decide) h.shows

theorem CallerStep.unstopped (h : CallerStep cfg me s cpc evs s' cpc') :
    ∀ e ∈ evs, e.stops = false :=
  Origin.unstopped (by decide) h.shows

theorem mem_of_unstopped {e : Event T} (hevs : ∀ e ∈ evs, e.stops = false) (he : e.stops = true) :
    e ∈ log ++ evs ↔ e ∈ log := by
  rw [List.mem_append]
  apply or_iff_left
  intro hm
  rw [hevs e hm] at he
  cases he

theorem Stopped.move (h : Stopped log s kpc) (hevs : ∀ e ∈ evs, e.stops = false)
    (hr : s'.isRunning = s.isRunning) : Stopped (log ++ evs) s' kpc where
  halted hm := hr.trans (h.halted ((mem_of_unstopped hevs rfl).1 hm))
  called hk := (mem_of_unstopped hevs rfl).2 (h.called hk)
  begun hdls hm :=
    (mem_of_unstopped hevs rfl).2 (h.begun hdls ((mem_of_unstopped hevs rfl).1 hm))
  swept hk hm := by
    obtain ⟨hdls, hs⟩ := h.swept hk ((mem_of_unstopped hevs rfl).1 hm)
    exact ⟨hdls, (mem_of_unstopped hevs rfl).2 hs⟩

theorem ControlStep.stopped (h : ControlStep s kpc evs s' kpc') (hs : Stopped log s kpc)
    (honce : .running ∈ evs → .stopping ∉ log) : Stopped (log ++ evs) s' kpc' := by
  cases h with
  | run hr =>
    have hevs : ∀ e ∈ [(.running : Event T)], e.stops = false := by
      simp only [List.mem_singleton, forall_eq, Event.stops]
    have hn : .stopping ∉ log ++ [.running] := fun hm =>
      honce (List.mem_singleton.2 rfl) ((mem_of_unstopped hevs rfl).1 hm)
    refine ⟨fun hm => (hn hm).elim, fun hk => (hk rfl).elim, fun hdls hm => ?_,
      fun _ hm => (hn hm).elim⟩
    exact List.mem_append_left _ (hs.begun hdls ((mem_of_unstopped hevs rfl).1 hm))
  | stop hr =>
    have hm : .stopping ∈ log ++ [(.stopping : Event T)] :=
      List.mem_append_right _ List.mem_cons_self
    exact ⟨fun _ => rfl, fun _ => hm, fun _ _ => hm, fun hk => (hk rfl).elim⟩
  | clearAll hn =>
    have hm : .stopping ∈ log ++ [.stopping, .shutdown s.openHdls] :=
      List.mem_append_right _ List.mem_cons_self
    refine ⟨fun _ => hs.halted (hs.called ?_), fun _ => hm, fun _ _ => hm,
      fun _ _ => ⟨s.openHdls, ?_⟩⟩
    · intro hk
      cases hk
    · exact List.mem_append_right _ (List.mem_cons_of_mem _ List.mem_cons_self)
  | notifyAll =>
    have hm : .stopping ∈ log := hs.called (fun hk => by cases hk)
    obtain ⟨hdls, hw⟩ := hs.swept (fun hk => by cases hk) hm
    exact ⟨fun _ => hs.halted hm, fun hk => (hk rfl).elim,
      fun _ _ => List.mem_append_left _ hm, fun _ _ => ⟨hdls, List.mem_append_left _ hw⟩⟩

theorem ControlStep.emptied (h : ControlStep s kpc evs s' kpc') (hs : Stopped log s kpc)
    (he : ∀ hdls, .shutdown hdls ∈ log → Emptied s pc)
    (honce : .running ∈ evs → .stopping ∉ log)
    (hidle : ∀ hdls, .shutdown hdls ∈ evs → pc.midway = false)
    (hg : s.sessionLock = none → pc.guarded = none) :
    ∀ hdls, .shutdown hdls ∈ log ++ evs → Emptied s' pc := by
  intro hdls hm
  have hbefore (hn : .shutdown hdls ∉ evs) : .shutdown hdls ∈ log :=
    (List.mem_append.1 hm).resolve_right hn
  cases h with
  | run hr =>
    have hm' := hbefore fun hp => by cases List.mem_singleton.1 hp
    exact (honce (List.mem_singleton.2 rfl) (hs.begun hdls hm')).elim
  | stop hr =>
    have hm' := hbefore fun hp => by cases List.mem_singleton.1 hp
    rw [(he hdls hm').stopped] at hr
    cases hr
  | clearAll hn =>
    have hstopped := hs.halted (hs.called (fun hk => by cases hk))
    have hd := hidle s.openHdls (List.mem_cons_of_mem _ List.mem_cons_self)
    exact .clearAll hstopped hd (hg hn)
  | notifyAll =>
    have hm' := hbefore fun hp => by cases List.mem_singleton.1 hp
    exact he hdls hm'

end Local

variable {T : Traits} {Caller : Type} [DecidableEq Caller] {cfg : Config T}
  {σ σ' : System T Unit Caller} {evs : List (Event T)}

/-- The server is not run again after the call of `stop`. -/
def OneStop (σ : System T Unit Caller) (evs : List (Event T)) (_ : System T Unit Caller) :
    Prop :=
  .running ∈ evs → .stopping ∉ σ.log

/-- One call of `stop`, whose section under the three locks runs when the worker is not midway
and is followed by no login. -/
structure CleanStop (σ : System T Unit Caller) (evs : List (Event T))
    (σ' : System T Unit Caller) : Prop where
  once : OneStop σ evs σ'
  idle : ∀ hdls, .shutdown hdls ∈ evs → (σ.worker ()).midway = false
  unopened : ∀ hdls, .shutdown hdls ∈ σ.log →
    ∀ hdl cid data, σ'.worker () ≠ .binding hdl cid data

omit [DecidableEq Caller] in
theorem cleanStop_iff : CleanStop σ evs σ' ↔
    (.running ∈ evs → .stopping ∉ σ.log) ∧
    (∀ hdls, .shutdown hdls ∈ evs → (σ.worker ()).midway = false) ∧
    ∀ hdls, .shutdown hdls ∈ σ.log → ∀ hdl cid data, σ'.worker () ≠ .binding hdl cid data :=
  ⟨fun h => ⟨h.once, h.idle, h.unopened⟩, fun h => ⟨h.1, h.2.1, h.2.2⟩⟩

/-- No handle is left open without a request to close it, and no container or count is left
over. -/
structure LeavesNothing (σ : System T Unit Caller) : Prop where
  closes : ∀ hdl, .opened hdl ∈ σ.log → .closed hdl ∉ σ.log → CloseRequested σ.log hdl
  newConnections : σ.server.newConnections = ∅
  connectionIds : σ.server.connectionIds = ∅
  idConnections : σ.server.idConnections = ∅
  sessionPlayers : σ.server.sessionPlayers = ∅
  playerCount : σ.server.playerCount = 0

structure Closed (σ : System T Unit Caller) : Prop where
  closedFirst : ClosedFirst σ.log σ.server (σ.worker ())
  accounted : Accounted σ.log σ.server (σ.worker ())
  stopped : Stopped σ.log σ.server σ.control
  emptied : ∀ hdls, .shutdown hdls ∈ σ.log → Emptied σ.server (σ.worker ())

theorem Closed.step (hσ : Closed σ) (hlock : SessionLocking σ) (h : Step cfg σ evs σ')
    (hC : CleanStop σ evs σ') : Closed σ' := by
  cases h with
  | transport h =>
    constructor
    · exact h.closedFirst hσ.closedFirst
    · exact h.accounted hσ.accounted
    · exact hσ.stopped.move h.unstopped (by cases h <;> rfl)
    · intro hdls hm
      exact h.emptied (hσ.emptied hdls ((mem_of_unstopped h.unstopped rfl).1 hm))
  | worker w h =>
    cases w
    have hb := hC.unopened
    simp only [Function.update_self] at hb
    constructor
    · simpa only [Function.update_self] using h.closedFirst hσ.closedFirst
    · simpa only [Function.update_self] using h.accounted hσ.accounted hσ.closedFirst
    · exact hσ.stopped.move h.unstopped h.isRunning
    · intro hdls hm
      have hm' := (mem_of_unstopped h.unstopped rfl).1 hm
      simpa only [Function.update_self] using h.emptied (hσ.emptied hdls hm') (hb hdls hm')
  | caller c h =>
    refine ⟨h.closedFirst hσ.closedFirst, h.accounted hσ.accounted,
      hσ.stopped.move h.unstopped h.isRunning, fun hdls hm => ?_⟩
    exact h.emptied (hσ.emptied hdls ((mem_of_unstopped h.unstopped rfl).1 hm))
  | control h =>
    refine ⟨h.closedFirst hσ.closedFirst, h.accounted hσ.accounted hC.idle,
      h.stopped hσ.stopped hC.once, ?_⟩
    apply h.emptied hσ.stopped hσ.emptied hC.once hC.idle
    intro hn
    exact Option.eq_none_iff_forall_ne_some.2 fun sid hg =>
      not_held_by_other hn (hlock.worker () sid hg).1

omit [DecidableEq Caller] in
theorem Closed.start (t : Int) : Closed (System.start t : System T Unit Caller) := by
  refine ⟨⟨?_, ?_⟩, ?_, ⟨?_, ?_, ?_, ?_⟩, ?_⟩
  · intro a hm
    cases hm
  · intro hdl hu
    cases hu
  · intro hdl ho
    cases ho
  · intro hm
    cases hm
  · intro hk
    exact (hk rfl).elim
  · intro hdls hm
    cases hm
  · intro hk hm
    cases hm
  · intro hdls hm
    cases hm

theorem closed_invariant : ((baseServer cfg).restrict CleanStop).Invariant
    fun σ : System T Unit Caller => Closed σ where
  init := by
    intro σ hinit
    obtain ⟨t, rfl⟩ := hinit
    exact .start t
  step hr hσ h := hσ.step (sessionLocking_invariant.reachable hr.of_restrict) h.1 h.2

/-- After a clean stop the containers are empty, and the transport was asked to close every
handle that is still open. -/
theorem stop_closes_all (h : ((baseServer cfg).restrict CleanStop).Reachable σ)
    (hreturned : σ.control = .idle) (hstopped : .stopping ∈ σ.log) : LeavesNothing σ := by
  have hσ := closed_invariant.reachable h
  obtain ⟨hdls, hm⟩ := hσ.stopped.swept (by rw [hreturned]; intro hk; cases hk) hstopped
  have he := hσ.emptied hdls hm
  refine ⟨fun hdl ho hc => ?_, he.newConnections, he.connectionIds, he.idConnections,
    he.sessionPlayers, he.playerCount⟩
  exact (hσ.accounted hdl ho hc).resolve_right (he.not_held hdl)

/-- A bound connection and one whose SUBSCRIBE action is still queued. -/
theorem stop_closes_all_two :
    ∃ σ : System natTraits Unit Unit, .opened 5 ∈ σ.log ∧ .opened 6 ∈ σ.log ∧
      σ.worker () = .returned ∧ LeavesNothing σ := by
  have h0 : ((baseServer natConfig).restrict CleanStop).Reachable
      (System.start 0 : System natTraits Unit Unit) := .init ⟨0, rfl⟩
  have h1 := h0.step ⟨.control (.run rfl), by simp [cleanStop_iff]⟩
  have h2 := h1.step ⟨.transport (.onOpen (5 : Nat) rfl), by simp [cleanStop_iff]⟩
  have h3 := h2.step ⟨.transport (.onMessage (5 : Nat) "ada"), by simp [cleanStop_iff]⟩
  have h4 := h3.step ⟨.worker () (.enter rfl), by simp [cleanStop_iff]⟩
  have h5 := h4.step ⟨.worker () (.pop rfl), by simp [cleanStop_iff]⟩
  have h6 := h5.step ⟨.worker () (.subscribe rfl), by simp [cleanStop_iff]⟩
  have h7 := h6.step ⟨.worker () (.enter rfl), by simp [cleanStop_iff]⟩
  have h8 := h7.step ⟨.worker () (.pop rfl), by simp [cleanStop_iff]⟩
  have h9 := h8.step ⟨.worker () (.messageUnbound rfl rfl), by simp [cleanStop_iff]⟩
  have h10 := h9.step ⟨.worker () (.openSession ⟨0, 0⟩ rfl rfl rfl), by simp [cleanStop_iff]⟩
  have h11 := h10.step ⟨.worker () .setupConnectionId, by simp [cleanStop_iff]⟩
  have h12 := h11.step ⟨.worker () .handleOpen, by simp [cleanStop_iff]⟩
  have h13 := h12.step ⟨.transport (.onOpen (6 : Nat) rfl), by simp [cleanStop_iff]⟩
  have h14 := h13.step ⟨.control (.stop rfl), by simp [cleanStop_iff]⟩
  have h15 := h14.step ⟨.control (.clearAll rfl), by simp [cleanStop_iff, WorkerPc.midway]⟩
  have h16 := h15.step ⟨.control .notifyAll, by simp [cleanStop_iff]⟩
  have h17 := h16.step ⟨.worker () (.exit rfl), by simp [cleanStop_iff]⟩
  exact ⟨_, by simp, by simp, rfl, stop_closes_all h17 rfl (by simp)⟩

/-- The worker holds a SUBSCRIBE action during the whole call of `stop`: its handle is neither
closed nor dropped. -/
theorem stop_misses_popped_subscribe :
    ∃ σ : System natTraits Unit Unit, ((baseServer natConfig).restrict OneStop).Reachable σ ∧
      σ.control = .idle ∧ .stopping ∈ σ.log ∧ σ.worker () = .returned ∧
      ¬ CloseRequested σ.log 5 ∧ ¬ LeavesNothing σ := by
  have h0 : ((baseServer natConfig).restrict OneStop).Reachable
      (System.start 0 : System natTraits Unit Unit) := .init ⟨0, rfl⟩
  have h1 := h0.step ⟨.control (.run rfl), by simp [OneStop]⟩
  have h2 := h1.step ⟨.transport (.onOpen (5 : Nat) rfl), by simp [OneStop]⟩
  have h3 := h2.step ⟨.worker () (.enter rfl), by simp [OneStop]⟩
  have h4 := h3.step ⟨.worker () (.pop rfl), by simp [OneStop]⟩
  have h5 := h4.step ⟨.control (.stop rfl), by simp [OneStop]⟩
  have h6 := h5.step ⟨.control (.clearAll rfl), by simp [OneStop]⟩
  have h7 := h6.step ⟨.control .notifyAll, by simp [OneStop]⟩
  have h8 := h7.step ⟨.worker () (.subscribe rfl), by simp [OneStop]⟩
  have h9 := h8.step ⟨.worker () (.exit rfl), by simp [OneStop]⟩
  refine ⟨_, h9, rfl, by simp, rfl, ?_, fun hl => ?_⟩
  · simp [CloseRequested, Server.openHdls, System.start]
  · exact absurd hl.newConnections (by decide)

end WebGameServer
