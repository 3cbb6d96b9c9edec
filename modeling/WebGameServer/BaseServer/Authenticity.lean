import WebGameServer.BaseServer.Threads

namespace WebGameServer
set_option autoImplicit true

section Local

variable {T : Traits} {Thread : Type} {cfg : Config T} {me : Thread} {s s' : Server T Thread}
  {log log' : List (Event T)}

/-- A message received on the handle is a token that verifies to the id. -/
def Presented (cfg : Config T) (log : List (Event T)) (hdl : T.Hdl) (cid : CombinedId T) :
    Prop :=
  ∃ token data, .received hdl token ∈ log ∧ cfg.verify token = some (cid, data)

def Action.Authentic (cfg : Config T) (log : List (Event T)) (a : Action T) : Prop :=
  match a.type with
  | .subscribe | .unsubscribe => True
  | .inMessage => .received a.hdl a.msg ∈ log
  | .outMessage | .closeConnection => ∃ cid, a.owner = some cid ∧ Presented cfg log a.hdl cid

def WorkerPc.Authentic (cfg : Config T) (log : List (Event T)) : WorkerPc T → Prop
  | .handling a => a.Authentic cfg log
  | .messaging hdl cid msg => .received hdl msg ∈ log ∧ Presented cfg log hdl cid
  | .opening hdl token => .received hdl token ∈ log
  | .binding hdl cid data | .entering hdl cid data =>
    ∃ token, .received hdl token ∈ log ∧ cfg.verify token = some (cid, data)
  | _ => True

def CallerPc.Authentic (cfg : Config T) (log : List (Event T)) : CallerPc T → Prop
  | .closing sid _ _ pid hdl => Presented cfg log hdl ⟨pid, sid⟩
  | .sending cid hdl _ => Presented cfg log hdl cid
  | _ => True

def Event.Authentic (cfg : Config T) (log : List (Event T)) : Event T → Prop
  | .handleOpen cid data =>
    ∃ hdl token, .received hdl token ∈ log ∧ cfg.verify token = some (cid, data)
  | .handleMessage cid msg => ∃ hdl, .received hdl msg ∈ log ∧ Presented cfg log hdl cid
  | .sent hdl _ owner => ∃ cid, owner = some cid ∧ Presented cfg log hdl cid
  | _ => True

structure Server.Authentic (cfg : Config T) (log : List (Event T)) (s : Server T Thread) :
    Prop where
  connectionIds : ∀ hdl cid, s.connectionIds.lookup hdl = some cid → Presented cfg log hdl cid
  idConnections : ∀ cid hdl, s.idConnections.lookup cid = some hdl → Presented cfg log hdl cid
  actions : ∀ a ∈ s.actions, a.Authentic cfg log

theorem Presented.mono (h : Presented cfg log hdl cid) (hl : log ⊆ log') :
    Presented cfg log' hdl cid := by
  obtain ⟨token, data, hr, hv⟩ := h
  exact ⟨token, data, hl hr, hv⟩

theorem Action.Authentic.mono {a : Action T} (h : a.Authentic cfg log) (hl : log ⊆ log') :
    a.Authentic cfg log' := by
  cases a with
  | mk type hdl msg owner =>
    cases type with
    | subscribe | unsubscribe => trivial
    | inMessage => exact hl h
    | outMessage | closeConnection =>
      obtain ⟨cid, ho, hp⟩ := h
      exact ⟨cid, ho, hp.mono hl⟩

theorem WorkerPc.Authentic.mono {pc : WorkerPc T} (h : pc.Authentic cfg log)
    (hl : log ⊆ log') : pc.Authentic cfg log' := by
  cases pc with
  | handling a => exact Action.Authentic.mono h hl
  | messaging hdl cid msg => exact ⟨hl h.1, h.2.mono hl⟩
  | opening hdl token => exact hl h
  | binding hdl cid data | entering hdl cid data =>
    obtain ⟨token, hr, hv⟩ := h
    exact ⟨token, hl hr, hv⟩
  | _ => trivial

theorem CallerPc.Authentic.mono {pc : CallerPc T} (h : pc.Authentic cfg log)
    (hl : log ⊆ log') : pc.Authentic cfg log' := by
  cases pc with
  | closing sid result todo pid hdl | sending cid hdl msg => exact Presented.mono h hl
  | _ => trivial

theorem Event.Authentic.mono {e : Event T} (h : e.Authentic cfg log) (hl : log ⊆ log') :
    e.Authentic cfg log' := by
  cases e with
  | handleOpen cid data =>
    obtain ⟨hdl, token, hr, hv⟩ := h
    exact ⟨hdl, token, hl hr, hv⟩
  | handleMessage cid msg =>
    obtain ⟨hdl, hr, hp⟩ := h
    exact ⟨hdl, hl hr, hp.mono hl⟩
  | sent hdl msg owner =>
    obtain ⟨cid, ho, hp⟩ := h
    exact ⟨cid, ho, hp.mono hl⟩
  | _ => trivial

theorem Server.Authentic.mono (h : s.Authentic cfg log) (hl : log ⊆ log') :
    s.Authentic cfg log' where
  connectionIds hdl cid he := (h.connectionIds hdl cid he).mono hl
  idConnections cid hdl he := (h.idConnections cid hdl he).mono hl
  actions a ha := (h.actions a ha).mono hl

theorem Server.Authentic.push (h : s.Authentic cfg log) (ha : a.Authentic cfg log) :
    (s.push a).Authentic cfg log where
  connectionIds := h.connectionIds
  idConnections := h.idConnections
  actions b hb := by
    rcases List.mem_append.1 hb with hb | hb
    · exact h.actions b hb
    · exact List.mem_singleton.1 hb ▸ ha

theorem Server.Authentic.pop (h : s.Authentic cfg log) (ha : s.actions = a :: rest) :
    ({ s with actions := rest } : Server T Thread).Authentic cfg log ∧ a.Authentic cfg log := by
  refine ⟨⟨h.connectionIds, h.idConnections, fun b hb => h.actions b ?_⟩, h.actions a ?_⟩
  · exact ha ▸ List.mem_cons_of_mem a hb
  · exact ha ▸ List.mem_cons_self

theorem Server.Authentic.updateSessionLocks (h : s.Authentic cfg log) :
    (s.updateSessionLocks r c).Authentic cfg log where
  connectionIds := by simpa only [Server.updateSessionLocks_connectionIds] using h.connectionIds
  idConnections := by simpa only [Server.updateSessionLocks_idConnections] using h.idConnections
  actions := by simpa only [Server.updateSessionLocks_actions] using h.actions

theorem Server.Authentic.disconnectSession (h : s.Authentic cfg log) :
    (s.disconnectSession cid).Authentic cfg log where
  connectionIds := by simpa only [Server.disconnectSession_connectionIds] using h.connectionIds
  idConnections := by simpa only [Server.disconnectSession_idConnections] using h.idConnections
  actions := by simpa only [Server.disconnectSession_actions] using h.actions

theorem Server.Authentic.disconnectConnection (h : s.Authentic cfg log) :
    (s.disconnectConnection hdl cid).Authentic cfg log where
  connectionIds a i he := by
    simp only [Server.disconnectConnection, Map.lookup_erase_ite] at he
    split at he
    · cases he
    · exact h.connectionIds a i he
  idConnections i a he := by
    simp only [Server.disconnectConnection, Map.lookup_erase_ite] at he
    split at he
    · cases he
    · exact h.idConnections i a he
  actions := h.actions

theorem Server.Authentic.setupConnectionId (h : s.Authentic cfg log)
    (hp : Presented cfg log hdl cid) : (s.setupConnectionId hdl cid).Authentic cfg log where
  connectionIds a i he := by
    rcases s.connectionIds_of_setup hdl cid he with ⟨rfl, rfl⟩ | ⟨he, -⟩
    · exact hp
    · exact h.connectionIds a i he
  idConnections i a he := by
    rw [Server.lookup_idConnections_setup] at he
    split at he
    · next hi =>
      cases he
      exact hi ▸ hp
    · exact h.idConnections i a he
  actions := by simpa only [Server.setupConnectionId_actions] using h.actions

theorem TransportStep.authentic (h : TransportStep s evs s') (hs : s.Authentic cfg log) :
    s'.Authentic cfg (log ++ evs) := by
  have hs' := hs.mono (List.subset_append_left log evs)
  cases h with
  | onOpen hdl hr => exact hs'.push trivial
  | onOpenStopped hdl hr => exact hs'
  | onMessage hdl msg =>
    exact hs'.push (List.mem_append_right log (List.mem_singleton.2 rfl))
  | onClose hdl => exact hs'.push trivial

theorem WorkerStep.authentic (h : WorkerStep cfg me s pc evs s' pc')
    (hs : s.Authentic cfg log) (hp : pc.Authentic cfg log) :
    s'.Authentic cfg log ∧ pc'.Authentic cfg log ∧ ∀ e ∈ evs, e.Authentic cfg log := by
  cases h with
  | enter hr | exit hr | wait ha => exact ⟨hs, trivial, List.forall_mem_nil _⟩
  | pop ha => exact ⟨(hs.pop ha).1, (hs.pop ha).2, List.forall_mem_singleton.2 trivial⟩
  | wakeStopped hr => exact ⟨hs, trivial, List.forall_mem_nil _⟩
  | wakePop hr ha => exact ⟨(hs.pop ha).1, (hs.pop ha).2, List.forall_mem_singleton.2 trivial⟩
  | subscribe ht | unsubscribeUnbound ht hu =>
    exact ⟨⟨hs.connectionIds, hs.idConnections, hs.actions⟩, trivial, List.forall_mem_nil _⟩
  | unsubscribeBound ht hb => exact ⟨hs, trivial, List.forall_mem_nil _⟩
  | disconnectConnection => exact ⟨hs.disconnectConnection, trivial, List.forall_mem_nil _⟩
  | disconnectSession hn => exact ⟨hs.disconnectSession, trivial, List.forall_mem_nil _⟩
  | uncount =>
    exact ⟨⟨hs.connectionIds, hs.idConnections, hs.actions⟩, trivial, List.forall_mem_nil _⟩
  | handleClose => exact ⟨hs, trivial, List.forall_mem_singleton.2 trivial⟩
  | messageUnbound ht hu =>
    simp only [WorkerPc.Authentic, Action.Authentic, ht] at hp
    exact ⟨hs, hp, List.forall_mem_nil _⟩
  | messageBound ht hb =>
    simp only [WorkerPc.Authentic, Action.Authentic, ht] at hp
    exact ⟨hs, ⟨hp, hs.connectionIds _ _ hb⟩, List.forall_mem_nil _⟩
  | handleMessage => exact ⟨hs, trivial, List.forall_mem_singleton.2 ⟨_, hp⟩⟩
  | outMessage ht =>
    simp only [WorkerPc.Authentic, Action.Authentic, ht] at hp
    exact ⟨hs, trivial, List.forall_mem_singleton.2 hp⟩
  | closeConnection ht =>
    simp only [WorkerPc.Authentic, Action.Authentic, ht] at hp
    exact ⟨hs, trivial, List.forall_mem_cons.2 ⟨hp, List.forall_mem_singleton.2 trivial⟩⟩
  | invalidToken hv => exact ⟨hs, trivial, List.forall_mem_singleton.2 trivial⟩
  | lockedSession c hv hn hr =>
    refine ⟨hs.updateSessionLocks, trivial, List.forall_mem_cons.2 ⟨trivial, ?_⟩⟩
    refine List.forall_mem_cons.2 ⟨⟨_, rfl, _, _, hp, hv⟩, List.forall_mem_singleton.2 trivial⟩
  | openSession c hv hn hl =>
    have hu := hs.updateSessionLocks (r := cfg.sessionReleaseTime) (c := c)
    exact ⟨⟨hu.connectionIds, hu.idConnections, hu.actions⟩, ⟨_, hp, hv⟩,
      List.forall_mem_nil _⟩
  | setupConnectionId =>
    refine ⟨?_, hp, fun e he => ?_⟩
    · obtain ⟨token, hr, hv⟩ := hp
      exact hs.setupConnectionId ⟨token, _, hr, hv⟩
    · obtain ⟨old, ho, rfl⟩ := List.mem_map.1 he
      trivial
  | handleOpen =>
    exact ⟨⟨hs.connectionIds, hs.idConnections, hs.actions⟩, trivial,
      List.forall_mem_singleton.2 ⟨_, hp⟩⟩

theorem CallerStep.authentic (h : CallerStep cfg me s pc evs s' pc')
    (hs : s.Authentic cfg log) (hp : pc.Authentic cfg log) :
    s'.Authentic cfg log ∧ pc'.Authentic cfg log ∧ ∀ e ∈ evs, e.Authentic cfg log := by
  cases h with
  | completeLocked c sid result hn hl =>
    exact ⟨hs.updateSessionLocks, trivial, List.forall_mem_singleton.2 trivial⟩
  | completeSession c sid result hn hl =>
    have hu := hs.updateSessionLocks (r := cfg.sessionReleaseTime) (c := c)
    exact ⟨⟨hu.connectionIds, hu.idConnections, hu.actions⟩, trivial,
      List.forall_mem_singleton.2 trivial⟩
  | findPlayer pid hm hi => exact ⟨hs, hs.idConnections _ _ hi, List.forall_mem_nil _⟩
  | skipPlayer pid hm hi => exact ⟨hs, trivial, List.forall_mem_nil _⟩
  | closePlayer => exact ⟨hs.push ⟨_, rfl, hp⟩, trivial, List.forall_mem_singleton.2 trivial⟩
  | lockSession =>
    exact ⟨⟨hs.connectionIds, hs.idConnections, hs.actions⟩, trivial, List.forall_mem_nil _⟩
  | sendMessage cid msg hi =>
    exact ⟨hs, hs.idConnections _ _ hi, List.forall_mem_singleton.2 trivial⟩
  | sendIgnored cid msg hi => exact ⟨hs, trivial, List.forall_mem_singleton.2 trivial⟩
  | pushMessage => exact ⟨hs.push ⟨_, rfl, hp⟩, trivial, List.forall_mem_nil _⟩

theorem ControlStep.authentic (h : ControlStep s pc evs s' pc') (hs : s.Authentic cfg log) :
    s'.Authentic cfg log ∧ ∀ e ∈ evs, e.Authentic cfg log := by
  cases h with
  | run hr | stop hr =>
    exact ⟨⟨hs.connectionIds, hs.idConnections, hs.actions⟩,
      List.forall_mem_singleton.2 trivial⟩
  | clearAll hn =>
    refine ⟨⟨nofun, nofun, List.forall_mem_nil _⟩, List.forall_mem_cons.2 ⟨trivial, ?_⟩⟩
    exact List.forall_mem_singleton.2 trivial
  | notifyAll =>
    exact ⟨⟨hs.connectionIds, hs.idConnections, hs.actions⟩,
      List.forall_mem_singleton.2 trivial⟩

end Local

variable {T : Traits} {Worker Caller : Type} [DecidableEq Worker] [DecidableEq Caller]
  {cfg : Config T} {σ σ' : System T Worker Caller}

/-- Whatever the server holds, is about to do or has done has its evidence in the history. -/
structure Authentic (cfg : Config T) (σ : System T Worker Caller) : Prop where
  server : σ.server.Authentic cfg σ.log
  worker : ∀ w, (σ.worker w).Authentic cfg σ.log
  caller : ∀ c, (σ.caller c).Authentic cfg σ.log
  log : ∀ e ∈ σ.log, e.Authentic cfg σ.log

theorem Authentic.events (hσ : Authentic cfg σ) (h : Step cfg σ evs σ') :
    ∀ e ∈ evs, e.Authentic cfg σ.log := by
  cases h with
  | transport h =>
    cases h with
    | onOpen hdl hr => exact List.forall_mem_singleton.2 trivial
    | onOpenStopped hdl hr =>
      exact List.forall_mem_cons.2 ⟨trivial, List.forall_mem_singleton.2 trivial⟩
    | onMessage hdl msg | onClose hdl => exact List.forall_mem_singleton.2 trivial
  | worker w h => exact (h.authentic hσ.server (hσ.worker w)).2.2
  | caller c h => exact (h.authentic hσ.server (hσ.caller c)).2.2
  | control h => exact (h.authentic hσ.server).2

theorem Authentic.step (hσ : Authentic cfg σ) (h : Step cfg σ evs σ') : Authentic cfg σ' := by
  have hsub : σ.log ⊆ σ.log ++ evs := List.subset_append_left σ.log evs
  have hlog : ∀ e ∈ σ.log ++ evs, e.Authentic cfg (σ.log ++ evs) := by
    intro e he
    rcases List.mem_append.1 he with he | he
    · exact (hσ.log e he).mono hsub
    · exact (hσ.events h e he).mono hsub
  have hworker (w : Worker) := (hσ.worker w).mono hsub
  have hcaller (c : Caller) := (hσ.caller c).mono hsub
  cases h with
  | transport h => exact ⟨h.authentic hσ.server, hworker, hcaller, hlog⟩
  | worker w h =>
    obtain ⟨hs, hp, -⟩ := h.authentic hσ.server (hσ.worker w)
    refine ⟨hs.mono hsub, fun w' => ?_, hcaller, hlog⟩
    by_cases hw : w' = w
    · subst hw
      simpa only [Function.update_self] using hp.mono hsub
    · simpa only [Function.update_of_ne hw] using hworker w'
  | caller c h =>
    obtain ⟨hs, hp, -⟩ := h.authentic hσ.server (hσ.caller c)
    refine ⟨hs.mono hsub, hworker, fun c' => ?_, hlog⟩
    by_cases hc : c' = c
    · subst hc
      simpa only [Function.update_self] using hp.mono hsub
    · simpa only [Function.update_of_ne hc] using hcaller c'
  | control h => exact ⟨(h.authentic hσ.server).1.mono hsub, hworker, hcaller, hlog⟩

theorem authentic_invariant :
    (baseServer cfg).Invariant fun σ : System T Worker Caller => Authentic cfg σ where
  init := by
    intro σ hinit
    obtain ⟨t, rfl⟩ := hinit
    exact ⟨⟨nofun, nofun, List.forall_mem_nil _⟩, fun w => trivial, fun c => trivial,
      List.forall_mem_nil _⟩
  step _ hσ h := hσ.step h

/-- The whole handling of a message on an unbound handle that is no valid token: the lookup
and the failed verification leave the server as it is, and only the handle is closed. -/
def RejectsQuietly (cfg : Config T) (me : Thread) (s : Server T Thread) (a : Action T) : Prop :=
  (∀ evs s' pc, WorkerStep cfg me s (.handling a) evs s' pc →
    s' = s ∧ evs = [] ∧ pc = .opening a.hdl a.msg) ∧
  ∀ t evs t' pc, WorkerStep cfg me t (.opening a.hdl a.msg) evs t' pc →
    t' = t ∧ evs = [.closing a.hdl .invalidJwt] ∧ pc = .testing

theorem rejectsQuietly (cfg : Config T) (me : Thread) (s : Server T Thread) (a : Action T)
    (ht : a.type = .inMessage) (hu : s.connectionIds.lookup a.hdl = none)
    (hv : cfg.verify a.msg = none) : RejectsQuietly cfg me s a := by
  constructor
  · intro evs s' pc h
    cases h with
    | messageUnbound ht' hu' => exact ⟨rfl, rfl, rfl⟩
    | messageBound ht' hb => rw [hu] at hb; cases hb
    | subscribe ht' | unsubscribeUnbound ht' hu' | unsubscribeBound ht' hb | outMessage ht'
    | closeConnection ht' => rw [ht] at ht'; cases ht'
  · intro t evs t' pc h
    cases h with
    | invalidToken hv' => exact ⟨rfl, rfl, rfl⟩
    | lockedSession c hv' hn hr | openSession c hv' hn hl => rw [hv] at hv'; cases hv'

/-- In every reachable state each binding was presented on its handle, the open and message
handlers are only called for messages of handles that presented the id, every text for an id
was only sent on handles that presented it, and a rejected message does nothing but close its
handle. -/
theorem authenticity_and_confidentiality (hσ : (baseServer cfg).Reachable σ) :
    (∀ hdl cid, σ.server.connectionIds.lookup hdl = some cid →
      Presented cfg σ.log hdl cid) ∧
    (∀ cid hdl, σ.server.idConnections.lookup cid = some hdl →
      Presented cfg σ.log hdl cid) ∧
    (∀ evs σ', Step cfg σ evs σ' →
      (∀ cid data, .handleOpen cid data ∈ evs → ∃ hdl token,
        .received hdl token ∈ σ.log ∧ cfg.verify token = some (cid, data)) ∧
      ∀ cid msg, .handleMessage cid msg ∈ evs → ∃ hdl,
        .received hdl msg ∈ σ.log ∧ Presented cfg σ.log hdl cid) ∧
    (∀ hdl msg owner, .sent hdl msg owner ∈ σ.log → ∃ cid,
      owner = some cid ∧ Presented cfg σ.log hdl cid) ∧
    ∀ w a, σ.worker w = .handling a → a.type = .inMessage →
      σ.server.connectionIds.lookup a.hdl = none → cfg.verify a.msg = none →
      RejectsQuietly cfg (.inl w) σ.server a := by
  have hI := authentic_invariant.reachable hσ
  refine ⟨hI.server.connectionIds, hI.server.idConnections, fun evs σ' h => ⟨?_, ?_⟩, ?_, ?_⟩
  · exact fun cid data he => hI.events h _ he
  · exact fun cid msg he => hI.events h _ he
  · exact fun hdl msg owner he => hI.log _ he
  · exact fun w a _ ht hu hv => rejectsQuietly cfg _ _ a ht hu hv

/-- A login with a valid token binds its handle to the id of the token. -/
theorem authenticity_login :
    ∃ σ : System natTraits Unit Unit, σ.server.connectionIds.lookup 5 = some ⟨1, 7⟩ ∧
      Presented natConfig σ.log 5 ⟨1, 7⟩ := by
  have h0 : (baseServer natConfig).Reachable (System.start 0 : System natTraits Unit Unit) :=
    .init ⟨0, rfl⟩
  have h1 := h0.step (.control (.run rfl))
  have h2 := h1.step (.transport (.onMessage (5 : Nat) "ada"))
  have h3 := h2.step (.worker () (.enter rfl))
  have h4 := h3.step (.worker () (.pop rfl))
  have h5 := h4.step (.worker () (.messageUnbound rfl rfl))
  have h6 := h5.step (.worker () (.openSession ⟨0, 0⟩ rfl rfl rfl))
  have h7 := h6.step (.worker () .setupConnectionId)
  exact ⟨_, rfl, (authenticity_and_confidentiality h7).1 5 ⟨1, 7⟩ rfl⟩

end WebGameServer
