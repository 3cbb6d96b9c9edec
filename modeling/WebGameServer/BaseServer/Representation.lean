import WebGameServer.BaseServer.Bindings

namespace WebGameServer
set_option autoImplicit true

section Local

variable {T : Traits} {Thread : Type} {cfg : Config T} {me : Thread} {s s' : Server T Thread}
  {log : List (Event T)} {q q' : List (ActionType × T.Hdl)}

/-- The action is pushed by a callback of the transport. -/
def ActionType.fromTransport : ActionType → Bool
  | .subscribe | .unsubscribe | .inMessage => true
  | .outMessage | .closeConnection => false

def Action.key (a : Action T) : ActionType × T.Hdl := (a.type, a.hdl)

def WorkerPc.inFlight : WorkerPc T → List (ActionType × T.Hdl)
  | .handling a => [a.key]
  | .disconnecting hdl _ | .leaving hdl _ | .uncounting hdl _ | .closing hdl _ =>
    [(.unsubscribe, hdl)]
  | .messaging hdl _ _ | .opening hdl _ | .binding hdl _ _ | .entering hdl _ _ =>
    [(.inMessage, hdl)]
  | _ => []

def pending (s : Server T Thread) (pc : WorkerPc T) : List (ActionType × T.Hdl) :=
  pc.inFlight ++ s.actions.map Action.key

/-- Of one handle, nothing comes after UNSUBSCRIBE and nothing before SUBSCRIBE. -/
def InOrder (x y : ActionType × T.Hdl) : Prop :=
  x.2 = y.2 → x.1.fromTransport = true → y.1.fromTransport = true →
    x.1 ≠ .unsubscribe ∧ y.1 ≠ .subscribe

def Absent (s : Server T Thread) (hdl : T.Hdl) : Prop :=
  hdl ∉ s.newConnections ∧ s.connectionIds.lookup hdl = none

/-- What the containers and the unfinished actions `q` say about the calls of the transport
so far. -/
structure Orderly (log : List (Event T)) (s : Server T Thread)
    (q : List (ActionType × T.Hdl)) : Prop where
  ordered : q.Pairwise InOrder
  opened : ∀ x ∈ q, x.1.fromTransport = true → .opened x.2 ∈ log
  closed : ∀ hdl, (.unsubscribe, hdl) ∈ q → .closed hdl ∈ log
  known : ∀ hdl, ¬ Absent s hdl → .opened hdl ∈ log ∧ (.subscribe, hdl) ∉ q
  gone : ∀ hdl, .closed hdl ∈ log → .opened hdl ∈ log ∧
    ((.unsubscribe, hdl) ∈ q ∨
      Absent s hdl ∧ ∀ x ∈ q, x.1.fromTransport = true → x.2 ≠ hdl)
  disjoint : ∀ hdl ∈ s.newConnections, s.connectionIds.lookup hdl = none

def Silent (evs : List (Event T)) : Prop :=
  ∀ hdl, .opened hdl ∉ evs ∧ .closed hdl ∉ evs

theorem Orderly.silent (h : Orderly log s q) (hs : Silent evs) : Orderly (log ++ evs) s q where
  ordered := h.ordered
  opened x hx ht := List.mem_append_left evs (h.opened x hx ht)
  closed hdl hx := List.mem_append_left evs (h.closed hdl hx)
  known hdl ha := ⟨List.mem_append_left evs (h.known hdl ha).1, (h.known hdl ha).2⟩
  gone hdl hc := by
    obtain ⟨ho, hg⟩ := h.gone hdl ((List.mem_append.1 hc).resolve_right (hs hdl).2)
    exact ⟨List.mem_append_left evs ho, hg⟩
  disjoint := h.disjoint

/-- Fewer connections, and fewer unfinished actions as long as the handle of each finished
UNSUBSCRIBE is gone. -/
theorem Orderly.shrink (h : Orderly log s q) (hq : q'.Sublist q)
    (hn : s'.newConnections ⊆ s.newConnections)
    (hc : ∀ hdl cid, s'.connectionIds.lookup hdl = some cid →
      s.connectionIds.lookup hdl = some cid)
    (hu : ∀ hdl, (.unsubscribe, hdl) ∈ q → (.unsubscribe, hdl) ∈ q' ∨
      Absent s' hdl ∧ ∀ x ∈ q', x.1.fromTransport = true → x.2 ≠ hdl) :
    Orderly log s' q' := by
  have hnone : ∀ hdl, s.connectionIds.lookup hdl = none →
      s'.connectionIds.lookup hdl = none := by
    intro hdl he
    cases hl : s'.connectionIds.lookup hdl with
    | none => rfl
    | some cid =>
      rw [hc hdl cid hl] at he
      cases he
  have habsent : ∀ hdl, Absent s hdl → Absent s' hdl :=
    fun hdl ha => ⟨fun hm => ha.1 (hn hm), hnone hdl ha.2⟩
  constructor
  · exact h.ordered.sublist hq
  · exact fun x hx => h.opened x (hq.subset hx)
  · exact fun hdl hx => h.closed hdl (hq.subset hx)
  · intro hdl ha
    obtain ⟨ho, hs⟩ := h.known hdl fun ha' => ha (habsent hdl ha')
    exact ⟨ho, fun hm => hs (hq.subset hm)⟩
  · intro hdl hx
    obtain ⟨ho, hx | ⟨ha, hx⟩⟩ := h.gone hdl hx
    · exact ⟨ho, hu hdl hx⟩
    · exact ⟨ho, .inr ⟨habsent hdl ha, fun x hm => hx x (hq.subset hm)⟩⟩
  · exact fun hdl hm => hnone hdl (h.disjoint hdl (hn hm))

theorem Orderly.congr (h : Orderly log s q) (hn : s'.newConnections = s.newConnections)
    (hc : s'.connectionIds = s.connectionIds) : Orderly log s' q :=
  h.shrink (.refl _) hn.subset (fun _ _ => hc ▸ id) fun _ => .inl

theorem Orderly.finish (h : Orderly log s (x :: q)) (hx : x.1 ≠ .unsubscribe)
    (hn : s'.newConnections ⊆ s.newConnections)
    (hc : ∀ hdl cid, s'.connectionIds.lookup hdl = some cid →
      s.connectionIds.lookup hdl = some cid) : Orderly log s' q := by
  apply h.shrink (List.sublist_cons_self x q) hn hc fun hdl hm => .inl ?_
  rcases List.mem_cons.1 hm with he | hm
  · exact (hx (he ▸ rfl)).elim
  · exact hm

theorem Orderly.finishUnsubscribe (h : Orderly log s ((.unsubscribe, hdl) :: q))
    (hn : s'.newConnections ⊆ s.newConnections)
    (hc : s'.connectionIds = s.connectionIds) (ha : Absent s' hdl) : Orderly log s' q := by
  apply h.shrink (List.sublist_cons_self _ q) hn (fun _ _ => hc ▸ id)
  intro hdl' hm
  rcases List.mem_cons.1 hm with he | hm
  · cases he
    refine .inr ⟨ha, fun x hx ht he => ?_⟩
    exact ((List.pairwise_cons.1 h.ordered).1 x hx he.symm rfl ht).1 rfl
  · exact .inl hm

theorem Orderly.pushInner (h : Orderly log s q) (hx : x.1.fromTransport = false)
    (hn : s'.newConnections = s.newConnections) (hc : s'.connectionIds = s.connectionIds) :
    Orderly log s' (q ++ [x]) := by
  have hother : ∀ y : ActionType × T.Hdl, y.1.fromTransport = true → y ∈ q ++ [x] → y ∈ q := by
    intro y hy hm
    rcases List.mem_append.1 hm with hm | hm
    · exact hm
    · rw [List.mem_singleton.1 hm, hx] at hy
      cases hy
  refine ⟨List.pairwise_append.2 ⟨h.ordered, List.pairwise_singleton _ _, ?_⟩,
    fun y hm hy => h.opened y (hother y hy hm) hy,
    fun hdl hm => h.closed hdl (hother (.unsubscribe, hdl) rfl hm), ?_, ?_, ?_⟩
  · intro y hy z hz _ _ ht
    rw [List.mem_singleton.1 hz, hx] at ht
    cases ht
  · intro hdl ha
    simp only [Absent, hn, hc] at ha
    exact ⟨(h.known hdl ha).1, fun hm => (h.known hdl ha).2 (hother (.subscribe, hdl) rfl hm)⟩
  · intro hdl hm
    simp only [Absent, hn, hc]
    obtain ⟨ho, hu | ⟨ha, hu⟩⟩ := h.gone hdl hm
    · exact ⟨ho, .inl (List.mem_append_left _ hu)⟩
    · exact ⟨ho, .inr ⟨ha, fun y hm hy => hu y (hother y hy hm) hy⟩⟩
  · rw [hn, hc]
    exact h.disjoint

theorem Orderly.pushTransport (h : Orderly log s q) {x : ActionType × T.Hdl}
    (hopen : .opened x.2 ∈ log ++ evs) (hclosed : .closed x.2 ∉ log)
    (hsub : x.1 = .subscribe → .opened x.2 ∉ log)
    (hunsub : x.1 = .unsubscribe → .closed x.2 ∈ log ++ evs)
    (hevs : ∀ hdl, .closed hdl ∈ evs → x = (.unsubscribe, hdl))
    (hn : s'.newConnections = s.newConnections) (hc : s'.connectionIds = s.connectionIds) :
    Orderly (log ++ evs) s' (q ++ [x]) := by
  refine ⟨List.pairwise_append.2 ⟨h.ordered, List.pairwise_singleton _ _, ?_⟩, ?_, ?_, ?_, ?_,
    by rw [hn, hc]; exact h.disjoint⟩
  · intro y hy z hz he hty htz
    rw [List.mem_singleton.1 hz] at he ⊢
    refine ⟨fun hu => hclosed ?_, fun hs => hsub hs ?_⟩
    · exact he ▸ h.closed y.2 (hu ▸ hy)
    · exact he ▸ h.opened y hy hty
  · intro y hy ht
    rcases List.mem_append.1 hy with hy | hy
    · exact List.mem_append_left _ (h.opened y hy ht)
    · exact List.mem_singleton.1 hy ▸ hopen
  · intro hdl hy
    rcases List.mem_append.1 hy with hy | hy
    · exact List.mem_append_left _ (h.closed hdl hy)
    · have he := List.mem_singleton.1 hy
      subst he
      exact hunsub rfl
  · intro hdl ha
    simp only [Absent, hn, hc] at ha
    obtain ⟨ho, hs⟩ := h.known hdl ha
    refine ⟨List.mem_append_left _ ho, fun hy => ?_⟩
    rcases List.mem_append.1 hy with hy | hy
    · exact hs hy
    · have he := List.mem_singleton.1 hy
      subst he
      exact hsub rfl ho
  · intro hdl hcl
    rcases List.mem_append.1 hcl with hcl | hcl
    · obtain ⟨ho, hg⟩ := h.gone hdl hcl
      refine ⟨List.mem_append_left _ ho, ?_⟩
      rcases hg with hg | ⟨ha, hg⟩
      · exact .inl (List.mem_append_left _ hg)
      · refine .inr ⟨by simpa only [Absent, hn, hc] using ha, fun y hy ht => ?_⟩
        rcases List.mem_append.1 hy with hy | hy
        · exact hg y hy ht
        · intro he
          rw [List.mem_singleton.1 hy] at he
          exact hclosed (he ▸ hcl)
    · have he := hevs hdl hcl
      subst he
      exact ⟨hopen, .inl (List.mem_append_right _ (List.mem_singleton.2 rfl))⟩

theorem Orderly.subscribe (h : Orderly log s ((.subscribe, hdl) :: q)) :
    Orderly log { s with newConnections := insert hdl s.newConnections } q := by
  have hfresh : Absent s hdl := by
    by_contra ha
    exact (h.known hdl ha).2 List.mem_cons_self
  obtain ⟨hfirst, hrest⟩ := List.pairwise_cons.1 h.ordered
  constructor
  · exact hrest
  · exact fun x hx => h.opened x (List.mem_cons_of_mem _ hx)
  · exact fun a hx => h.closed a (List.mem_cons_of_mem _ hx)
  · intro a ha
    by_cases he : a = hdl
    · subst he
      refine ⟨h.opened _ List.mem_cons_self rfl, fun hm => ?_⟩
      exact (hfirst _ hm rfl rfl rfl).2 rfl
    · have ha' : ¬ Absent s a := by
        simpa only [Absent, Finset.mem_insert, he, false_or] using ha
      exact ⟨(h.known a ha').1, fun hm => (h.known a ha').2 (List.mem_cons_of_mem _ hm)⟩
  · intro a hcl
    obtain ⟨ho, hu | ⟨ha, hx⟩⟩ := h.gone a hcl
    · exact ⟨ho, .inl ((List.mem_cons.1 hu).resolve_left nofun)⟩
    · have he : a ≠ hdl := (hx _ List.mem_cons_self rfl).symm
      refine ⟨ho, .inr ⟨?_, fun x hm => hx x (List.mem_cons_of_mem _ hm)⟩⟩
      simpa only [Absent, Finset.mem_insert, he, false_or] using ha
  · intro a ha
    rcases Finset.mem_insert.1 ha with rfl | ha
    · exact hfresh.2
    · exact h.disjoint a ha

theorem Orderly.setupConnectionId (h : Orderly log s ((.inMessage, hdl) :: q))
    (hu : s.connectionIds.lookup hdl = none) (cid : CombinedId T) :
    Orderly log (s.setupConnectionId hdl cid) ((.inMessage, hdl) :: q) := by
  have hlookup := s.lookup_connectionIds_setup hu cid
  have hother : ∀ a, a ≠ hdl → s.connectionIds.lookup a = none →
      (s.setupConnectionId hdl cid).connectionIds.lookup a = none := by
    intro a ha hn
    rw [hlookup, if_neg ha, hn, ite_self]
  have habsent : ∀ a, a ≠ hdl → Absent s a → Absent (s.setupConnectionId hdl cid) a := by
    intro a ha hab
    refine ⟨?_, hother a ha hab.2⟩
    rw [Server.setupConnectionId_newConnections]
    exact fun hm => hab.1 (Finset.mem_of_mem_erase hm)
  constructor
  · exact h.ordered
  · exact h.opened
  · exact h.closed
  · intro a ha
    by_cases he : a = hdl
    · subst he
      refine ⟨h.opened _ List.mem_cons_self rfl, fun hm => ?_⟩
      have hm' := (List.mem_cons.1 hm).resolve_left nofun
      exact ((List.pairwise_cons.1 h.ordered).1 _ hm' rfl rfl rfl).2 rfl
    · exact h.known a fun hab => ha (habsent a he hab)
  · intro a hcl
    obtain ⟨ho, hg⟩ := h.gone a hcl
    refine ⟨ho, hg.imp_right fun ⟨hab, hx⟩ => ⟨?_, hx⟩⟩
    exact habsent a (hx _ List.mem_cons_self rfl).symm hab
  · intro a ha
    rw [Server.setupConnectionId_newConnections] at ha
    exact hother a (Finset.ne_of_mem_erase ha) (h.disjoint a (Finset.mem_of_mem_erase ha))

/-- The handle whose UNSUBSCRIBE action has already removed it. -/
def WorkerPc.unbound : WorkerPc T → Option T.Hdl
  | .leaving hdl _ | .uncounting hdl _ | .closing hdl _ => some hdl
  | _ => none

theorem WorkerStep.silent (h : WorkerStep cfg me s pc evs s' pc') : Silent evs :=
  fun _ => ⟨notMem_of_shows h.shows rfl, notMem_of_shows h.shows rfl⟩

theorem CallerStep.silent (h : CallerStep cfg me s pc evs s' pc') : Silent evs :=
  fun _ => ⟨notMem_of_shows h.shows rfl, notMem_of_shows h.shows rfl⟩

theorem ControlStep.silent (h : ControlStep s pc evs s' pc') : Silent evs :=
  fun _ => ⟨notMem_of_shows h.shows rfl, notMem_of_shows h.shows rfl⟩

/-- A worker step takes the next action, works on the action in flight or finishes it. -/
theorem WorkerStep.orderly (h : WorkerStep cfg me s pc evs s' pc')
    (ho : Orderly log s (pending s pc)) (hb : Bound s pc)
    (hu : ∀ hdl, pc.unbound = some hdl → Absent s hdl) :
    Orderly log s' (pending s' pc') ∧ ∀ hdl, pc'.unbound = some hdl → Absent s' hdl := by
  cases h with
  | enter hr | exit hr | wait ha | wakeStopped hr => exact ⟨ho, nofun⟩
  | pop ha | wakePop hr ha =>
    simp only [pending, ha, List.map_cons] at ho
    exact ⟨ho.congr rfl rfl, nofun⟩
  | subscribe ht =>
    simp only [pending, WorkerPc.inFlight, Action.key, ht] at ho
    exact ⟨ho.subscribe, nofun⟩
  | @unsubscribeUnbound _ a ht hn =>
    simp only [pending, WorkerPc.inFlight, Action.key, ht] at ho
    refine ⟨ho.finishUnsubscribe (Finset.erase_subset _ _) rfl ⟨?_, hn⟩, nofun⟩
    exact Finset.notMem_erase a.hdl s.newConnections
  | unsubscribeBound ht hi | messageUnbound ht hi | messageBound ht hi =>
    simp only [pending, WorkerPc.inFlight, Action.key, ht] at ho
    exact ⟨ho, nofun⟩
  | @disconnectConnection _ hdl cid =>
    have habsent : Absent (s.disconnectConnection hdl cid) hdl := by
      refine ⟨fun hm => ?_, Finmap.lookup_erase hdl _⟩
      have hc : s.connectionIds.lookup hdl = some cid := hb.fits
      rw [ho.disjoint hdl hm] at hc
      cases hc
    refine ⟨ho.shrink (.refl _) subset_rfl (fun a i he => ?_) fun _ => .inl, ?_⟩
    · simp only [Server.disconnectConnection, Map.lookup_erase_ite] at he
      split at he
      · cases he
      · exact he
    · intro a ha
      cases ha
      exact habsent
  | disconnectSession hn =>
    constructor
    · simp only [pending, Server.disconnectSession_actions]
      exact ho.congr s.disconnectSession_newConnections s.disconnectSession_connectionIds
    · intro a ha
      rw [Absent, s.disconnectSession_newConnections, s.disconnectSession_connectionIds]
      exact hu a ha
  | uncount => exact ⟨ho.congr rfl rfl, hu⟩
  | handleClose => exact ⟨ho.finishUnsubscribe subset_rfl rfl (hu _ rfl), nofun⟩
  | handleMessage | invalidToken hv =>
    exact ⟨ho.finish nofun subset_rfl fun _ _ => id, nofun⟩
  | outMessage ht | closeConnection ht =>
    simp only [pending, WorkerPc.inFlight, Action.key, ht] at ho
    exact ⟨ho.finish nofun subset_rfl fun _ _ => id, nofun⟩
  | lockedSession c hv hn hr =>
    refine ⟨?_, nofun⟩
    simp only [pending, Server.updateSessionLocks_actions]
    exact (ho.finish nofun subset_rfl fun _ _ => id).congr s.updateSessionLocks_newConnections
      s.updateSessionLocks_connectionIds
  | openSession c hv hn hl =>
    refine ⟨?_, nofun⟩
    simp only [pending, Server.updateSessionLocks_actions]
    exact ho.congr s.updateSessionLocks_newConnections s.updateSessionLocks_connectionIds
  | @setupConnectionId _ hdl cid data =>
    refine ⟨?_, nofun⟩
    simp only [pending, Server.setupConnectionId_actions]
    exact ho.setupConnectionId hb.fits cid
  | handleOpen => exact ⟨(ho.finish nofun subset_rfl fun _ _ => id).congr rfl rfl, nofun⟩

theorem CallerStep.orderly (h : CallerStep cfg me s cpc evs s' cpc')
    (ho : Orderly log s (pending s pc)) : Orderly log s' (pending s' pc) := by
  cases h with
  | completeLocked c sid result hn hl | completeSession c sid result hn hl =>
    simp only [pending, Server.updateSessionLocks_actions]
    exact ho.congr s.updateSessionLocks_newConnections s.updateSessionLocks_connectionIds
  | closePlayer | pushMessage =>
    simp only [pending, Server.push, List.map_append, ← List.append_assoc]
    exact ho.pushInner rfl rfl rfl
  | _ => exact ho.congr rfl rfl

theorem ControlStep.orderly (h : ControlStep s kpc evs s' kpc') (hn : .stopping ∉ evs)
    (ho : Orderly log s (pending s pc)) : Orderly log s' (pending s' pc) := by
  cases h with
  | run hr => exact ho.congr rfl rfl
  | stop hr | clearAll hl | notifyAll => exact (hn List.mem_cons_self).elim

/-- The calls of the callbacks for one handle: `on_open` once and first, then `on_message`,
and `on_close` at most once and last. -/
@[mk_iff] structure TransportContract (log evs : List (Event T)) : Prop where
  opened : ∀ hdl, .opened hdl ∈ evs → .opened hdl ∉ log
  received : ∀ hdl msg, .received hdl msg ∈ evs → .opened hdl ∈ log ∧ .closed hdl ∉ log
  closed : ∀ hdl, .closed hdl ∈ evs → .opened hdl ∈ log ∧ .closed hdl ∉ log

theorem TransportStep.orderly (h : TransportStep s evs s') (hc : TransportContract log evs)
    (ho : Orderly log s (pending s pc)) : Orderly (log ++ evs) s' (pending s' pc) := by
  cases h with
  | onOpen hdl hr =>
    have hfresh := hc.opened hdl (List.mem_singleton.2 rfl)
    simp only [pending, Server.push, List.map_append, ← List.append_assoc]
    refine ho.pushTransport ?_ (fun hcl => hfresh (ho.gone hdl hcl).1) (fun _ => hfresh)
      nofun ?_ rfl rfl
    · exact List.mem_append_right _ (List.mem_singleton.2 rfl)
    · exact fun a ha => nomatch List.mem_singleton.1 ha
  | onOpenStopped hdl hr =>
    have ho' : Orderly (log ++ [.opened hdl, .closing hdl .serverShutdown]) s
        (pending s pc) := by
      constructor
      · exact ho.ordered
      · exact fun x hx ht => List.mem_append_left _ (ho.opened x hx ht)
      · exact fun a hx => List.mem_append_left _ (ho.closed a hx)
      · intro a ha
        exact ⟨List.mem_append_left _ (ho.known a ha).1, (ho.known a ha).2⟩
      · intro a hcl
        have hcl' := (List.mem_append.1 hcl).resolve_right (by
          simp only [List.mem_cons, reduceCtorEq, List.not_mem_nil, or_false,
            not_false_eq_true])
        exact ⟨List.mem_append_left _ (ho.gone a hcl').1, (ho.gone a hcl').2⟩
      · exact ho.disjoint
    exact ho'
  | onMessage hdl msg =>
    obtain ⟨hopen, hclosed⟩ := hc.received hdl msg (List.mem_singleton.2 rfl)
    simp only [pending, Server.push, List.map_append, ← List.append_assoc]
    refine ho.pushTransport (List.mem_append_left _ hopen) hclosed nofun nofun ?_ rfl rfl
    exact fun a ha => nomatch List.mem_singleton.1 ha
  | onClose hdl =>
    obtain ⟨hopen, hclosed⟩ := hc.closed hdl (List.mem_singleton.2 rfl)
    simp only [pending, Server.push, List.map_append, ← List.append_assoc]
    refine ho.pushTransport (List.mem_append_left _ hopen) hclosed nofun (fun _ => ?_) ?_
      rfl rfl
    · exact List.mem_append_right _ (List.mem_singleton.2 rfl)
    · intro a ha
      cases List.mem_singleton.1 ha
      rfl

/-- What happened to the UNSUBSCRIBE actions that the worker took: their handles are closed
and no second one is queued. -/
def Processed (log : List (Event T)) (s : Server T Thread) : Prop :=
  ∀ a, .took a ∈ log → a.type = .unsubscribe →
    .closed a.hdl ∈ log ∧ (.unsubscribe, a.hdl) ∉ s.actions.map Action.key

theorem Processed.append (h : Processed log s) (ht : ∀ a, .took a ∉ evs)
    (ha : s'.actions = s.actions ++ as)
    (hn : ∀ a ∈ as, a.type = .unsubscribe → .closed a.hdl ∉ log) :
    Processed (log ++ evs) s' := by
  intro a hm hu
  obtain ⟨hc, hq⟩ := h a ((List.mem_append.1 hm).resolve_right (ht a)) hu
  refine ⟨List.mem_append_left _ hc, fun hm => ?_⟩
  rw [ha, List.map_append] at hm
  rcases List.mem_append.1 hm with hm | hm
  · exact hq hm
  · obtain ⟨b, hb, he⟩ := List.mem_map.1 hm
    have hh : b.hdl = a.hdl := congrArg Prod.snd he
    exact hn b hb (congrArg Prod.fst he) (hh ▸ hc)

theorem Processed.pop (h : Processed log s) (ho : Orderly log s (s.actions.map Action.key))
    (ha : s.actions = a :: rest) :
    Processed (log ++ [.took a]) ({ s with actions := rest } : Server T Thread) := by
  intro b hm hu
  simp only [ha, List.map_cons] at ho
  rcases List.mem_append.1 hm with hm | hm
  · obtain ⟨hc, hq⟩ := h b hm hu
    rw [ha] at hq
    exact ⟨List.mem_append_left _ hc, fun hm => hq (List.mem_cons_of_mem _ hm)⟩
  · cases List.mem_singleton.1 hm
    have hk : a.key = (.unsubscribe, a.hdl) := by rw [Action.key, hu]
    rw [hk] at ho
    refine ⟨List.mem_append_left _ (ho.closed _ List.mem_cons_self), fun hm => ?_⟩
    exact ((List.pairwise_cons.1 ho.ordered).1 _ hm rfl rfl rfl).1 rfl

theorem WorkerStep.processed (h : WorkerStep cfg me s pc evs s' pc')
    (ho : Orderly log s (pending s pc)) (hp : Processed log s) :
    Processed (log ++ evs) s' := by
  have quiet (ht : ∀ a, .took a ∉ evs) (ha : s'.actions = s.actions) :
      Processed (log ++ evs) s' :=
    hp.append ht (ha.trans (List.append_nil _).symm) (List.forall_mem_nil _)
  cases h with
  | pop ha | wakePop hr ha => exact hp.pop ho ha
  | setupConnectionId =>
    apply quiet ?_ (Server.setupConnectionId_actions s)
    intro a hm
    obtain ⟨old, -, he⟩ := List.mem_map.1 hm
    cases he
  | disconnectSession hn =>
    exact quiet (fun a => List.not_mem_nil) (Server.disconnectSession_actions s)
  | lockedSession c hv hn hr =>
    apply quiet ?_ (Server.updateSessionLocks_actions s)
    intro a
    simp only [List.mem_cons, reduceCtorEq, List.not_mem_nil, or_false, not_false_eq_true]
  | openSession c hv hn hl =>
    exact quiet (fun a => List.not_mem_nil) (Server.updateSessionLocks_actions s)
  | _ =>
    apply quiet ?_ rfl
    intro a
    simp only [List.mem_cons, reduceCtorEq, List.not_mem_nil, or_false, not_false_eq_true]

theorem CallerStep.processed (h : CallerStep cfg me s cpc evs s' cpc')
    (hp : Processed log s) : Processed (log ++ evs) s' := by
  have ht : ∀ a, .took a ∉ evs := fun _ => notMem_of_shows h.shows rfl
  cases h with
  | completeLocked c sid result hn hl =>
    apply hp.append ht ?_ (List.forall_mem_nil _)
    rw [Server.updateSessionLocks_actions, List.append_nil]
  | completeSession c sid result hn hl =>
    apply hp.append ht ?_ (List.forall_mem_nil _)
    simp only [Server.updateSessionLocks_actions, List.append_nil]
  | closePlayer | pushMessage => exact hp.append ht rfl (List.forall_mem_singleton.2 nofun)
  | _ => exact hp.append ht (List.append_nil _).symm (List.forall_mem_nil _)

theorem TransportStep.processed (h : TransportStep s evs s') (hc : TransportContract log evs)
    (hp : Processed log s) : Processed (log ++ evs) s' := by
  have ht : ∀ a, .took a ∉ evs := fun _ => notMem_of_shows h.shows rfl
  cases h with
  | onOpen hdl hr => exact hp.append ht rfl (List.forall_mem_singleton.2 nofun)
  | onOpenStopped hdl hr =>
    exact hp.append ht (List.append_nil _).symm (List.forall_mem_nil _)
  | onMessage hdl msg => exact hp.append ht rfl (List.forall_mem_singleton.2 nofun)
  | onClose hdl =>
    apply hp.append ht rfl (List.forall_mem_singleton.2 fun _ => ?_)
    exact (hc.closed hdl (List.mem_singleton.2 rfl)).2

theorem ControlStep.processed (h : ControlStep s kpc evs s' kpc') (hn : .stopping ∉ evs)
    (hp : Processed log s) : Processed (log ++ evs) s' := by
  cases h with
  | run hr =>
    apply hp.append ?_ (List.append_nil _).symm (List.forall_mem_nil _)
    intro a hm
    cases List.mem_singleton.1 hm
  | stop hr | clearAll hl | notifyAll => exact (hn List.mem_cons_self).elim

structure Represented (log : List (Event T)) (s : Server T Thread) (pc : WorkerPc T) :
    Prop where
  bound : Bound s pc
  orderly : Orderly log s (pending s pc)
  unbound : ∀ hdl, pc.unbound = some hdl → Absent s hdl
  processed : Processed log s

theorem Represented.absent (h : Represented log s pc) (ht : .took a ∈ log)
    (hu : a.type = .unsubscribe) (hn : pc.unsubscribing ≠ some a.hdl) :
    Absent s a.hdl ∧ ∀ cid, s.idConnections.lookup cid ≠ some a.hdl := by
  obtain ⟨hc, hq⟩ := h.processed a ht hu
  have habsent : Absent s a.hdl := by
    obtain ⟨-, hm | ⟨ha, -⟩⟩ := h.orderly.gone _ hc
    · rcases List.mem_append.1 hm with hm | hm
      · apply (hn ?_).elim
        cases pc with
        | handling b =>
          have he := List.mem_singleton.1 hm
          have ht' : b.type = .unsubscribe := (congrArg Prod.fst he).symm
          have hh : b.hdl = a.hdl := (congrArg Prod.snd he).symm
          simp only [WorkerPc.unsubscribing, ht', ↓reduceIte, hh]
        | disconnecting hdl cid | leaving hdl cid | uncounting hdl cid | closing hdl cid =>
          cases List.mem_singleton.1 hm; rfl
        | messaging hdl cid msg | opening hdl token | binding hdl cid data
        | entering hdl cid data => cases List.mem_singleton.1 hm
        | _ => cases hm
      · exact (hq hm).elim
    · exact ha
  refine ⟨habsent, fun cid hi => ?_⟩
  have hl := (h.bound.inverse a.hdl cid).2 hi
  rw [habsent.2] at hl
  cases hl

end Local

variable {T : Traits} {Worker Caller : Type} [DecidableEq Worker] [DecidableEq Caller]
  {cfg : Config T}

/-- No step of a call of `stop`, and a transport that keeps its contract. -/
def Undisturbed (σ : System T Worker Caller) (evs : List (Event T))
    (_ : System T Worker Caller) : Prop :=
  .stopping ∉ evs ∧ TransportContract σ.log evs

omit [DecidableEq Worker] [DecidableEq Caller] in
theorem undisturbed_iff {σ σ' : System T Worker Caller} : Undisturbed σ evs σ' ↔
    .stopping ∉ evs ∧ (∀ hdl, .opened hdl ∈ evs → .opened hdl ∉ σ.log) ∧
      (∀ hdl msg, .received hdl msg ∈ evs → .opened hdl ∈ σ.log ∧ .closed hdl ∉ σ.log) ∧
      ∀ hdl, .closed hdl ∈ evs → .opened hdl ∈ σ.log ∧ .closed hdl ∉ σ.log := by
  rw [Undisturbed, transportContract_iff]

/-- Only the transport can break its contract, and only `stop` shows its steps. -/
theorem LTS.Reachable.worker {σ : System T Worker Caller}
    (hr : ((baseServer cfg).restrict Undisturbed).Reachable σ) (w : Worker)
    (h : WorkerStep cfg (.inl w) σ.server (σ.worker w) evs s pc) :
    ((baseServer cfg).restrict Undisturbed).Reachable
      { σ with server := s, worker := Function.update σ.worker w pc, log := σ.log ++ evs } := by
  apply hr.step
  refine ⟨.worker w h, notMem_of_shows h.shows rfl, fun hdl hm => ?_, fun hdl msg hm => ?_,
    fun hdl hm => ?_⟩
  · exact (notMem_of_shows h.shows rfl hm).elim
  · exact (notMem_of_shows h.shows rfl hm).elim
  · exact (notMem_of_shows h.shows rfl hm).elim

theorem represented_invariant : ((baseServer cfg).restrict Undisturbed).Invariant
    fun σ : System T Unit Caller => Represented σ.log σ.server (σ.worker ()) where
  init := by
    intro σ hinit
    obtain ⟨t, rfl⟩ := hinit
    refine ⟨.start t, ⟨.nil, nofun, nofun, fun hdl ha => ?_, nofun, nofun⟩, nofun, nofun⟩
    exact (ha ⟨Finset.notMem_empty hdl, rfl⟩).elim
  step _ hr h := by
    obtain ⟨h, hn, hc⟩ := h
    cases h with
    | transport h =>
      refine ⟨hr.bound.same h.sameBindings, h.orderly hc hr.orderly, fun hdl hu => ?_,
        h.processed hc hr.processed⟩
      simp only [Absent, h.sameBindings.newConnections, h.sameBindings.connectionIds]
      exact hr.unbound hdl hu
    | worker w h =>
      simp only [Function.update_self]
      obtain ⟨ho, hu⟩ := h.orderly hr.orderly hr.bound hr.unbound
      exact ⟨h.bound hr.bound, ho.silent h.silent, hu, h.processed hr.orderly hr.processed⟩
    | caller c h =>
      refine ⟨hr.bound.same h.sameBindings, h.orderly hr.orderly |>.silent h.silent,
        fun hdl hu => ?_, h.processed hr.processed⟩
      simp only [Absent, h.sameBindings.newConnections, h.sameBindings.connectionIds]
      exact hr.unbound hdl hu
    | control h =>
      refine ⟨hr.bound.same (h.sameBindings hn), h.orderly hn hr.orderly |>.silent h.silent,
        fun hdl hu => ?_, h.processed hn hr.processed⟩
      simp only [Absent, (h.sameBindings hn).newConnections,
        (h.sameBindings hn).connectionIds]
      exact hr.unbound hdl hu

/-- Between two actions the five containers and the counter agree. -/
structure Consistent (s : Server T Thread) : Prop where
  inverse : Map.Inverse s.connectionIds s.idConnections
  connectionCount : s.playerCount = s.connectionIds.keys.card
  idCount : s.playerCount = s.idConnections.keys.card
  players : ∀ cid, cid.player ∈ s.playersOf cid.session ↔ cid ∈ s.idConnections.keys
  nonempty : s.NoEmptySession
  disjoint : Disjoint s.newConnections s.connectionIds.keys

/-- The worker has finished all the actions it took. -/
def WorkerPc.resting {T : Traits} : WorkerPc T → Bool
  | .testing | .locking | .waiting | .returned => true
  | _ => false

theorem Represented.consistent {s : Server T Thread} {pc : WorkerPc T}
    (h : Represented log s pc) (hp : pc.resting = true) : Consistent s := by
  have hb := h.bound
  have hu : pc.uncounted = 0 := by cases pc <;> first | rfl | cases hp
  have he : pc.enteringId = none := by cases pc <;> first | rfl | cases hp
  have hl : pc.leavingId = none := by cases pc <;> first | rfl | cases hp
  have hcount : s.playerCount = s.idConnections.keys.card := by
    rw [hb.count, hu, Nat.add_zero]
  constructor
  · exact hb.inverse
  · exact hcount.trans hb.inverse.card_eq.symm
  · exact hcount
  · intro cid
    have hpl := hb.players cid (by rw [he]; exact nofun)
    rw [hl] at hpl
    rw [Map.mem_keys_iff, ← Option.isSome_iff_exists, hpl]
    exact or_iff_left nofun
  · exact hb.nonempty
  · apply Finset.disjoint_left.2
    intro hdl hm hk
    obtain ⟨cid, hc⟩ := (Map.mem_keys_iff _).1 hk
    rw [h.orderly.disjoint hdl hm] at hc
    cases hc

/-- With one worker, any callers, no `stop` and a transport that keeps its contract: after each
action the containers and the counter agree, the handle of a processed UNSUBSCRIBE is in no
container any more, and its processing leaves newer connections of the id alone. -/
theorem containers_represent_connections {σ : System T Unit Caller}
    (hσ : ((baseServer cfg).restrict Undisturbed).Reachable σ) :
    ((σ.worker ()).resting = true → Consistent σ.server) ∧
    (∀ a, .took a ∈ σ.log → a.type = .unsubscribe →
      (σ.worker ()).unsubscribing ≠ some a.hdl →
      a.hdl ∉ σ.server.newConnections ∧ σ.server.connectionIds.lookup a.hdl = none ∧
        ∀ cid, σ.server.idConnections.lookup cid ≠ some a.hdl) ∧
    SparesReplacement cfg (.inl ()) σ.server (σ.worker ()) := by
  have hr := represented_invariant.reachable hσ
  refine ⟨hr.consistent, fun a ht hu hn => ?_, hr.bound.sparesReplacement⟩
  obtain ⟨⟨h1, h2⟩, h3⟩ := hr.absent ht hu hn
  exact ⟨h1, h2, h3⟩

/-- After a login and the disconnection of handle 5, nothing is left of it. -/
theorem containers_represent_connections_login :
    ∃ σ : System natTraits Unit Unit, .took ⟨.unsubscribe, 5, "", none⟩ ∈ σ.log ∧
      Consistent σ.server ∧ σ.server.connectionIds.lookup 5 = none := by
  have h0 : ((baseServer natConfig).restrict Undisturbed).Reachable
      (System.start 0 : System natTraits Unit Unit) := .init ⟨0, rfl⟩
  have h1 := h0.step ⟨.control (.run rfl), by simp [undisturbed_iff]⟩
  have h2 := h1.step ⟨.transport (.onOpen (5 : Nat) rfl), by simp [undisturbed_iff]⟩
  have h3 := h2.step ⟨.transport (.onMessage (5 : Nat) "ada"), by simp [undisturbed_iff]⟩
  have h4 := h3.worker () (.enter rfl)
  have h5 := h4.worker () (.pop rfl)
  have h6 := h5.worker () (.subscribe rfl)
  have h7 := h6.worker () (.enter rfl)
  have h8 := h7.worker () (.pop rfl)
  have h9 := h8.worker () (.messageUnbound rfl rfl)
  have h10 := h9.worker () (.openSession ⟨0, 0⟩ rfl rfl rfl)
  have h11 := h10.worker () .setupConnectionId
  have h12 := h11.worker () .handleOpen
  have h13 := h12.step ⟨.transport (.onClose (5 : Nat)), by simp [undisturbed_iff]⟩
  have h14 := h13.worker () (.enter rfl)
  have h15 := h14.worker () (.pop rfl)
  have h16 := h15.worker () (.unsubscribeBound rfl rfl)
  have h17 := h16.worker () .disconnectConnection
  have h18 := h17.worker () (.disconnectSession rfl)
  have h19 := h18.worker () .uncount
  have h20 := h19.worker () .handleClose
  obtain ⟨hconsistent, hgone, -⟩ := containers_represent_connections h20
  refine ⟨_, ?_, hconsistent rfl, (hgone ⟨.unsubscribe, (5 : Nat), "", none⟩ ?_ rfl nofun).2.1⟩
  · simp
  · simp

end WebGameServer
