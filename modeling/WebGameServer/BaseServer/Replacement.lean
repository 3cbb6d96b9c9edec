import WebGameServer.BaseServer.Representation
import WebGameServer.Library.Counting

namespace WebGameServer
set_option autoImplicit true

section Local

variable {T : Traits} {Thread : Type} {cfg : Config T} {me : Thread} {s s' : Server T Thread}
  {pc pc' : WorkerPc T}

def WorkerPc.evicting : WorkerPc T → Option (CombinedId T)
  | .disconnecting _ cid | .leaving _ cid | .uncounting _ cid | .closing _ cid => some cid
  | _ => none

/-- What `player_disconnect` relies on: its handle is the one bound to the id, and after the
section under `m_connection_lock` the id is unbound. -/
def WorkerPc.Evicts (s : Server T Thread) : WorkerPc T → Prop
  | .disconnecting hdl cid => s.idConnections.lookup cid = some hdl
  | .leaving _ cid | .uncounting _ cid | .closing _ cid => s.idConnections.lookup cid = none
  | _ => True

theorem WorkerPc.Evicts.congr (h : pc.Evicts s) (he : s'.idConnections = s.idConnections) :
    pc.Evicts s' := by
  cases pc <;> simp only [WorkerPc.Evicts, he] at h ⊢ <;> exact h

/-- Each bound handle is the one bound to its id. -/
def Current (s : Server T Thread) : Prop :=
  ∀ hdl cid, s.connectionIds.lookup hdl = some cid → s.idConnections.lookup cid = some hdl

theorem Current.disconnectConnection (h : Current s) (he : s.idConnections.lookup cid = some hdl) :
    Current (s.disconnectConnection hdl cid) := by
  intro a i ha
  simp only [Server.disconnectConnection, Map.lookup_erase_ite] at ha ⊢
  split at ha
  · cases ha
  · next hne =>
    have hi := h a i ha
    rw [if_neg]
    · exact hi
    · rintro rfl
      rw [he] at hi
      exact hne (Option.some.inj hi).symm

/-- A login keeps the relation also when its handle has been bound in the meantime. -/
theorem Current.setupConnectionId (h : Current s) (hdl : T.Hdl) (cid : CombinedId T) :
    Current (s.setupConnectionId hdl cid) := by
  intro a i ha
  rw [Server.lookup_idConnections_setup]
  rcases s.connectionIds_of_setup hdl cid ha with ⟨rfl, rfl⟩ | ⟨ha, hne⟩
  · rw [if_pos rfl]
  · have hi := h a i ha
    rw [if_neg]
    · exact hi
    · rintro rfl
      exact hne hi

theorem WorkerStep.current (h : WorkerStep cfg me s pc evs s' pc') (hs : Current s)
    (hp : pc.Evicts s) : Current s' := by
  cases h with
  | disconnectConnection => exact hs.disconnectConnection hp
  | setupConnectionId => exact hs.setupConnectionId _ _
  | disconnectSession hn =>
    simpa only [Current, Server.disconnectSession_connectionIds,
      Server.disconnectSession_idConnections] using hs
  | lockedSession c hv hn hr | openSession c hv hn hl =>
    simpa only [Current, Server.updateSessionLocks_connectionIds,
      Server.updateSessionLocks_idConnections] using hs
  | _ => exact hs

theorem WorkerStep.evicts (h : WorkerStep cfg me s pc evs s' pc') (hs : Current s)
    (hp : pc.Evicts s) : pc'.Evicts s' := by
  cases h with
  | unsubscribeBound ht hi => exact hs _ _ hi
  | disconnectConnection => exact Finmap.lookup_erase _ _
  | disconnectSession hn =>
    simpa only [WorkerPc.Evicts, Server.disconnectSession_idConnections] using hp
  | uncount => exact hp
  | _ => trivial

/-- The sections of other threads move the bindings of the ids they evict or bind only. -/
theorem WorkerStep.evicts_other {other : WorkerPc T} (h : WorkerStep cfg me s pc evs s' pc')
    (hp : pc.Evicts s) (ho : other.Evicts s)
    (hbind : ∀ hdl cid data, pc = .binding hdl cid data → other.evicting ≠ some cid)
    (hdistinct : ∀ hdl, pc.unsubscribing = some hdl → other.unsubscribing ≠ some hdl) :
    other.Evicts s' := by
  cases h with
  | @disconnectConnection _ hdl cid =>
    have hi : s.idConnections.lookup cid = some hdl := hp
    cases other with
    | disconnecting hdl' cid' =>
      have hi' : s.idConnections.lookup cid' = some hdl' := ho
      have hne : cid' ≠ cid := by
        rintro rfl
        rw [hi] at hi'
        cases hi'
        exact hdistinct hdl rfl rfl
      simpa only [WorkerPc.Evicts, Server.disconnectConnection, Map.lookup_erase_ite, hne,
        ↓reduceIte] using hi'
    | leaving hdl' cid' | uncounting hdl' cid' | closing hdl' cid' =>
      simp only [WorkerPc.Evicts, Server.disconnectConnection, Map.lookup_erase_ite] at ho ⊢
      rw [ho, ite_self]
    | _ => trivial
  | @setupConnectionId _ hdl cid data =>
    have hne : ∀ cid', other.evicting = some cid' → cid' ≠ cid := by
      rintro cid' he rfl
      exact hbind hdl cid' data rfl he
    cases other with
    | disconnecting hdl' cid' | leaving hdl' cid' | uncounting hdl' cid' | closing hdl' cid' =>
      simpa only [WorkerPc.Evicts, Server.lookup_idConnections_setup, hne cid' rfl, ↓reduceIte]
        using ho
    | _ => trivial
  | disconnectSession hn => exact ho.congr (Server.disconnectSession_idConnections s)
  | lockedSession c hv hn hr | openSession c hv hn hl =>
    exact ho.congr (Server.updateSessionLocks_idConnections s)
  | _ => exact ho.congr rfl

/-- A step moves the counter by as much as the bound ids and the ids not yet uncounted. -/
theorem WorkerStep.balance (h : WorkerStep cfg me s pc evs s' pc') (hp : pc.Evicts s)
    (hc : pc.uncounted ≤ s.playerCount) :
    s'.playerCount + s.idConnections.keys.card + pc.uncounted =
      s.playerCount + s'.idConnections.keys.card + pc'.uncounted := by
  cases h with
  | @disconnectConnection _ hdl cid =>
    have hk := Map.card_erase_present s.idConnections hp
    simp only [Server.disconnectConnection, WorkerPc.uncounted]
    omega
  | uncount =>
    have hpos : 0 < s.playerCount := hc
    simp only [WorkerPc.uncounted, sizeDecrement_pos hpos]
    omega
  | @setupConnectionId _ hdl cid data =>
    have hb := s.setupConnectionId_balance hdl cid
    simp only [WorkerPc.uncounted]
    omega
  | disconnectSession hn =>
    simp only [Server.disconnectSession_playerCount, Server.disconnectSession_idConnections,
      WorkerPc.uncounted]
  | lockedSession c hv hn hr | openSession c hv hn hl =>
    simp only [Server.updateSessionLocks_playerCount, Server.updateSessionLocks_idConnections,
      WorkerPc.uncounted]
  | _ => rfl

def WorkerPc.unsubscribes (pc : WorkerPc T) (hdl : T.Hdl) : Nat :=
  if pc.unsubscribing = some hdl then 1 else 0

def Server.unsubscribes (s : Server T Thread) (hdl : T.Hdl) : Nat :=
  s.actions.countP fun a => a.type = .unsubscribe ∧ a.hdl = hdl

theorem Server.unsubscribes_pop (ha : s.actions = a :: rest) (hdl : T.Hdl) :
    s.unsubscribes hdl =
      ({ s with actions := rest } : Server T Thread).unsubscribes hdl +
        (WorkerPc.handling a).unsubscribes hdl := by
  simp only [unsubscribes, ha, List.countP_cons, WorkerPc.unsubscribes, WorkerPc.unsubscribing]
  by_cases ht : a.type = .unsubscribe
  · simp only [ht, true_and, decide_eq_true_eq, ↓reduceIte, Option.some.injEq]
  · simp only [ht, false_and, decide_false, Bool.false_eq_true, ↓reduceIte, reduceCtorEq]

theorem WorkerStep.unsubscribes_le (h : WorkerStep cfg me s pc evs s' pc') (hdl : T.Hdl) :
    s'.unsubscribes hdl + pc'.unsubscribes hdl ≤ s.unsubscribes hdl + pc.unsubscribes hdl := by
  have hdone (hs : s'.actions = s.actions) (hp : pc'.unsubscribing = none) :
      s'.unsubscribes hdl + pc'.unsubscribes hdl ≤ s.unsubscribes hdl + pc.unsubscribes hdl := by
    simp only [Server.unsubscribes, WorkerPc.unsubscribes, hs, hp, reduceCtorEq, ↓reduceIte]
    omega
  cases h with
  | pop ha | wakePop hr ha =>
    rw [s.unsubscribes_pop ha]
    exact Nat.le_add_right _ _
  | unsubscribeBound ht hi =>
    simp only [WorkerPc.unsubscribes, WorkerPc.unsubscribing, ht, ↓reduceIte]
    exact le_rfl
  | disconnectConnection => exact le_rfl
  | disconnectSession hn =>
    simp only [Server.unsubscribes, Server.disconnectSession_actions]
    exact le_rfl
  | uncount => exact le_rfl
  | lockedSession c hv hn hr | openSession c hv hn hl =>
    exact hdone (Server.updateSessionLocks_actions s) rfl
  | setupConnectionId => exact hdone (Server.setupConnectionId_actions s) rfl
  | _ => exact hdone rfl rfl

theorem CallerStep.unsubscribes_eq (h : CallerStep cfg me s cpc evs s' cpc') (hdl : T.Hdl) :
    s'.unsubscribes hdl = s.unsubscribes hdl := by
  cases h with
  | completeLocked c sid result hn hl | completeSession c sid result hn hl =>
    simp only [Server.unsubscribes, Server.updateSessionLocks_actions]
  | closePlayer | pushMessage =>
    simp only [Server.unsubscribes, Server.push, List.countP_append, List.countP_singleton,
      reduceCtorEq, false_and, decide_false, Bool.false_eq_true, ↓reduceIte, Nat.add_zero]
  | _ => rfl

theorem ControlStep.unsubscribes_eq (h : ControlStep s kpc evs s' kpc')
    (hn : .stopping ∉ evs) (hdl : T.Hdl) : s'.unsubscribes hdl = s.unsubscribes hdl := by
  cases h with
  | run hr => rfl
  | stop hr | clearAll hl | notifyAll => exact (hn List.mem_cons_self).elim

theorem TransportStep.unsubscribes (h : TransportStep s evs s') (hdl : T.Hdl) :
    s'.unsubscribes hdl = s.unsubscribes hdl ∨
      (.closed hdl ∈ evs ∧ s'.unsubscribes hdl = s.unsubscribes hdl + 1) := by
  cases h with
  | onOpenStopped a hr => exact .inl rfl
  | onOpen a hr | onMessage a msg =>
    simp only [Server.unsubscribes, Server.push, List.countP_append, List.countP_singleton,
      reduceCtorEq, false_and, decide_false, Bool.false_eq_true, ↓reduceIte, Nat.add_zero,
      true_or]
  | onClose a =>
    simp only [Server.unsubscribes, Server.push, List.countP_append, List.countP_singleton,
      true_and, decide_eq_true_eq]
    by_cases ha : a = hdl
    · subst ha
      exact .inr ⟨List.mem_singleton.2 rfl, by rw [if_pos rfl]⟩
    · exact .inl (by rw [if_neg ha, Nat.add_zero])

theorem WorkerStep.of_binding (h : WorkerStep cfg me s (.binding hdl cid data) evs s' pc') :
    pc' = .entering hdl cid data := by
  cases h with
  | setupConnectionId => rfl

end Local

section Run

variable {T : Traits} {Worker Caller : Type} [DecidableEq Worker] [DecidableEq Caller]
  [Fintype Worker] {cfg : Config T} {σ σ' : System T Worker Caller}

def System.unsubscribes (σ : System T Worker Caller) (hdl : T.Hdl) : Nat :=
  σ.server.unsubscribes hdl + ∑ w, (σ.worker w).unsubscribes hdl

structure Replaceable (σ : System T Worker Caller) : Prop where
  current : Current σ.server
  evicts : ∀ w, (σ.worker w).Evicts σ.server
  count : σ.server.playerCount =
    σ.server.idConnections.keys.card + ∑ w, (σ.worker w).uncounted
  once : ∀ hdl, σ.unsubscribes hdl ≤ 1
  closed : ∀ hdl, 0 < σ.unsubscribes hdl → .closed hdl ∈ σ.log

/-- No step of a call of `stop`, the transport closes a handle at most once, and a thread only
runs `setup_connection_id` for an id while no thread is in `player_disconnect` for it. -/
@[mk_iff] structure Settled (σ : System T Worker Caller) (evs : List (Event T))
    (σ' : System T Worker Caller) : Prop where
  running : .stopping ∉ evs
  closes : ∀ hdl, .closed hdl ∈ evs → .closed hdl ∉ σ.log
  binds : ∀ w hdl cid data, σ.worker w = .binding hdl cid data →
    σ'.worker w ≠ .binding hdl cid data → ∀ w', (σ.worker w').evicting ≠ some cid

omit [DecidableEq Caller] in
theorem Replaceable.distinct (hσ : Replaceable σ) {w w' : Worker} (hne : w ≠ w')
    (h : (σ.worker w).unsubscribing = some hdl) :
    (σ.worker w').unsubscribing ≠ some hdl := by
  intro h'
  have hsum := Counting.add_le_sum (fun w => (σ.worker w).unsubscribes hdl) hne
  simp only [WorkerPc.unsubscribes, h, h', ↓reduceIte] at hsum
  have hle := hσ.once hdl
  simp only [System.unsubscribes, WorkerPc.unsubscribes] at hle
  omega

omit [DecidableEq Worker] [DecidableEq Caller] in
theorem Replaceable.same (hσ : Replaceable σ) (hs : SameBindings σ.server s)
    (hu : ∀ hdl, s.unsubscribes hdl = σ.server.unsubscribes hdl ∨
      (.closed hdl ∈ evs ∧ s.unsubscribes hdl = σ.server.unsubscribes hdl + 1))
    (hc : ∀ hdl, .closed hdl ∈ evs → .closed hdl ∉ σ.log) {caller : Caller → CallerPc T}
    {control : ControlPc} :
    Replaceable { σ with
      server := s, caller := caller, control := control, log := σ.log ++ evs } := by
  constructor
  · simpa only [Current, hs.connectionIds, hs.idConnections] using hσ.current
  · exact fun w => (hσ.evicts w).congr hs.idConnections
  · simpa only [hs.playerCount, hs.idConnections] using hσ.count
  · intro hdl
    rcases hu hdl with he | ⟨hm, he⟩
    · simpa only [System.unsubscribes, he] using hσ.once hdl
    · have hz : ¬ 0 < σ.unsubscribes hdl := fun h => hc hdl hm (hσ.closed hdl h)
      simp only [System.unsubscribes] at hz ⊢
      omega
  · intro hdl hp
    rcases hu hdl with he | ⟨hm, he⟩
    · apply List.mem_append_left _ (hσ.closed hdl ?_)
      simpa only [System.unsubscribes, he] using hp
    · exact List.mem_append_right _ hm

omit [DecidableEq Caller] in
theorem Replaceable.worker (hσ : Replaceable σ)
    (h : WorkerStep cfg (.inl w) σ.server (σ.worker w) evs s pc)
    (hbind : ∀ hdl cid data, σ.worker w = .binding hdl cid data →
      ∀ w', (σ.worker w').evicting ≠ some cid) :
    Replaceable { σ with
      server := s, worker := Function.update σ.worker w pc, log := σ.log ++ evs } := by
  have hevicts := hσ.evicts w
  have huncounted : (σ.worker w).uncounted ≤ σ.server.playerCount := by
    rw [hσ.count]
    exact (Counting.le_sum (fun w => (σ.worker w).uncounted) w).trans (Nat.le_add_left _ _)
  have hunsub (hdl : T.Hdl) := h.unsubscribes_le hdl
  have hsum (hdl : T.Hdl) :=
    Counting.sum_update (fun pc : WorkerPc T => pc.unsubscribes hdl) σ.worker w pc
  constructor
  · exact h.current hσ.current hevicts
  · intro w'
    by_cases hw : w' = w
    · subst hw
      simp only [Function.update_self]
      exact h.evicts hσ.current hevicts
    · simp only [Function.update_of_ne hw]
      exact h.evicts_other hevicts (hσ.evicts w') (fun hdl cid data he => hbind hdl cid data he w')
        fun hdl hu => hσ.distinct (Ne.symm hw) hu
  · have hb := h.balance hevicts huncounted
    have hu := Counting.sum_update (fun pc : WorkerPc T => pc.uncounted) σ.worker w pc
    have hc := hσ.count
    simp only at hu ⊢
    omega
  · intro hdl
    have hle := hσ.once hdl
    have h1 := hunsub hdl
    have h2 := hsum hdl
    simp only [System.unsubscribes] at hle h2 ⊢
    omega
  · intro hdl hp
    apply List.mem_append_left _ (hσ.closed hdl ?_)
    have h1 := hunsub hdl
    have h2 := hsum hdl
    simp only [System.unsubscribes] at hp h2 ⊢
    omega

theorem Replaceable.step (hσ : Replaceable σ) (h : Step cfg σ evs σ') (hs : Settled σ evs σ') :
    Replaceable σ' := by
  cases h with
  | transport h => exact hσ.same h.sameBindings h.unsubscribes hs.closes
  | worker w h =>
    apply hσ.worker h fun hdl cid data he => hs.binds w hdl cid data he ?_
    rw [he] at h
    simp only [Function.update_self, h.of_binding]
    exact nofun
  | caller c h => exact hσ.same h.sameBindings (fun hdl => .inl (h.unsubscribes_eq hdl)) hs.closes
  | control h =>
    apply hσ.same (h.sameBindings hs.running) (fun hdl => .inl ?_) hs.closes
    exact h.unsubscribes_eq hs.running hdl

theorem replaceable_invariant : ((baseServer cfg).restrict Settled).Invariant
    fun σ : System T Worker Caller => Replaceable σ where
  init := by
    intro σ hinit
    obtain ⟨t, rfl⟩ := hinit
    have hz : ∀ hdl, (System.start t : System T Worker Caller).unsubscribes hdl = 0 :=
      fun hdl => Nat.add_eq_zero_iff.2 ⟨rfl, Finset.sum_eq_zero fun w _ => rfl⟩
    constructor
    · exact nofun
    · exact fun w => trivial
    · exact (Nat.add_eq_zero_iff.2 ⟨rfl, Finset.sum_eq_zero fun w _ => rfl⟩).symm
    · intro hdl
      rw [hz]
      exact Nat.zero_le 1
    · intro hdl hp
      rw [hz] at hp
      cases hp
  step _ hσ h := hσ.step h.1 h.2

/-- What the server promises its other threads about replaced connections. -/
structure KeepsReplacements (cfg : Config T) (σ : System T Worker Caller) : Prop where
  spares : ∀ w, SparesReplacement cfg (.inl w) σ.server (σ.worker w)
  count : (∀ w, (σ.worker w).resting = true) →
    σ.server.playerCount = σ.server.idConnections.keys.card
  noWrap : ∀ w hdl cid, σ.worker w = .uncounting hdl cid → 0 < σ.server.playerCount

omit [DecidableEq Worker] [DecidableEq Caller] in
theorem Replaceable.keepsReplacements (hσ : Replaceable σ) : KeepsReplacements cfg σ where
  spares w := by
    apply sparesReplacement ?_ ?_
    · intro hdl cid he
      simpa only [he, WorkerPc.Evicts] using hσ.evicts w
    · intro hdl cid he
      rcases he with he | he <;> simpa only [he, WorkerPc.Evicts] using hσ.evicts w
  count hr := by
    rw [hσ.count, Finset.sum_eq_zero, Nat.add_zero]
    intro w _
    have hw := hr w
    cases hpc : σ.worker w with
    | leaving hdl cid | uncounting hdl cid => rw [hpc] at hw; cases hw
    | _ => rfl
  noWrap w hdl cid he := by
    have hle := Counting.le_sum (fun w => (σ.worker w).uncounted) w
    have hc := hσ.count
    simp only [he, WorkerPc.uncounted] at hle
    simp only [WorkerPc.uncounted] at hc
    omega

/-- Any number of workers keep replacements as long as no login binds an id that another
worker is still evicting. -/
theorem replacements_kept_when_settled
    (hσ : ((baseServer cfg).restrict Settled).Reachable σ) : KeepsReplacements cfg σ :=
  (replaceable_invariant.reachable hσ).keepsReplacements

end Run

/-- With two workers a login may bind the id that the other worker is about to evict: the new
connection is evicted, and its own disconnection takes the counter below zero. -/
theorem replacement_evicted_by_late_disconnection :
    ∃ σ : System natTraits Bool Unit, ((baseServer natConfig).restrict Undisturbed).Reachable σ ∧
      ¬ KeepsReplacements natConfig σ ∧ (∀ w, (σ.worker w).resting = true) ∧
      σ.server.idConnections.keys.card = 0 ∧ σ.server.playerCount = 2 ^ 64 - 1 := by
  have h0 : ((baseServer natConfig).restrict Undisturbed).Reachable
      (System.start 0 : System natTraits Bool Unit) := .init ⟨0, rfl⟩
  have h1 := h0.step ⟨.control (.run rfl), by simp [undisturbed_iff]⟩
  have h2 := h1.step ⟨.transport (.onOpen (5 : Nat) rfl), by simp [undisturbed_iff]⟩
  have h3 := h2.step ⟨.transport (.onMessage (5 : Nat) "ada"), by simp [undisturbed_iff]⟩
  have h4 := h3.worker true (.enter rfl)
  have h5 := h4.worker true (.pop rfl)
  have h6 := h5.worker true (.subscribe rfl)
  have h7 := h6.worker true (.enter rfl)
  have h8 := h7.worker true (.pop rfl)
  have h9 := h8.worker true (.messageUnbound rfl rfl)
  have h10 := h9.worker true (.openSession ⟨0, 0⟩ rfl rfl rfl)
  have h11 := h10.worker true .setupConnectionId
  have h12 := h11.worker true .handleOpen
  have h13 := h12.step ⟨.transport (.onOpen (6 : Nat) rfl), by simp [undisturbed_iff]⟩
  have h14 := h13.step ⟨.transport (.onMessage (6 : Nat) "ada"), by simp [undisturbed_iff]⟩
  have h15 := h14.step ⟨.transport (.onClose (5 : Nat)), by simp [undisturbed_iff]⟩
  have h16 := h15.worker false (.enter rfl)
  have h17 := h16.worker false (.pop rfl)
  have h18 := h17.worker false (.subscribe rfl)
  have h19 := h18.worker false (.enter rfl)
  have h20 := h19.worker false (.pop rfl)
  have h21 := h20.worker false (.messageUnbound rfl rfl)
  have h22 := h21.worker false (.openSession ⟨0, 0⟩ rfl rfl rfl)
  have h23 := h22.worker true (.enter rfl)
  have h24 := h23.worker true (.pop rfl)
  have h25 := h24.worker true (.unsubscribeBound rfl rfl)
  have h26 := h25.worker false .setupConnectionId
  have h27 := h26.worker false .handleOpen
  have h28 := h27.worker true .disconnectConnection
  have h29 := h28.worker true (.disconnectSession rfl)
  have h30 := h29.worker true .uncount
  have h31 := h30.worker true .handleClose
  have h32 := h31.step ⟨.transport (.onClose (6 : Nat)), by simp [undisturbed_iff]⟩
  have h33 := h32.worker true (.enter rfl)
  have h34 := h33.worker true (.pop rfl)
  have h35 := h34.worker true (.unsubscribeBound rfl rfl)
  have h36 := h35.worker true .disconnectConnection
  have h37 := h36.worker true (.disconnectSession rfl)
  have h38 := h37.worker true .uncount
  have h39 := h38.worker true .handleClose
  refine ⟨_, h39, fun hk => ?_, by decide, rfl, by decide⟩
  exact absurd (hk.count (by decide)) (by decide)

/-- A login on one of two workers. -/
theorem replacements_kept_when_settled_login :
    ∃ σ : System natTraits Bool Unit, σ.server.idConnections.lookup ⟨1, 7⟩ = some 5 ∧
      KeepsReplacements natConfig σ := by
  have h0 : ((baseServer natConfig).restrict Settled).Reachable
      (System.start 0 : System natTraits Bool Unit) := .init ⟨0, rfl⟩
  have h1 := h0.step ⟨.control (.run rfl), by simp [settled_iff, System.start]⟩
  have h2 := h1.step ⟨.transport (.onMessage (5 : Nat) "ada"), by simp [settled_iff, System.start]⟩
  have h3 := h2.step ⟨.worker true (.enter rfl), by simp [settled_iff, System.start]⟩
  have h4 := h3.step ⟨.worker true (.pop rfl), by simp [settled_iff, System.start]⟩
  have h5 := h4.step ⟨.worker true (.messageUnbound rfl rfl), by simp [settled_iff, System.start]⟩
  have h6 := h5.step
    ⟨.worker true (.openSession ⟨0, 0⟩ rfl rfl rfl), by simp [settled_iff, System.start]⟩
  have h7 := h6.step
    ⟨.worker true .setupConnectionId, by simp [settled_iff, System.start, WorkerPc.evicting]⟩
  exact ⟨_, rfl, replacements_kept_when_settled h7⟩

end WebGameServer
