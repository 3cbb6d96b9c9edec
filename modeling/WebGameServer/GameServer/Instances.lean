import WebGameServer.GameServer.UpdateOrder

namespace WebGameServer
set_option autoImplicit true

section Instance

variable {T : Traits} {G : Type}

/-- What a call makes of a game, with any output vector. -/
inductive InstanceStep (inst : GameInstance T G) (g : G) : GameCall T → G → Prop where
  | connect (out : List (Message T)) (pid : T.PlayerId) :
      InstanceStep inst g (.connect pid) (inst.connect g out pid).1
  | disconnect (out : List (Message T)) (pid : T.PlayerId) :
      InstanceStep inst g (.disconnect pid) (inst.disconnect g out pid).1
  | update (out msgs : List (Message T)) (deltaTime : Int) :
      InstanceStep inst g (.update msgs deltaTime) (inst.update g out msgs deltaTime).1

def instances (P : GameInstance T G → Prop) : LTS G (GameCall T) where
  init g := ∃ inst data, P inst ∧ g = inst.construct data ∧ inst.isValid g = true
  step g c g' := ∃ inst, P inst ∧ InstanceStep inst g c g'

/-- `update` is not called on a game with the property. -/
def Unended (done : G → Bool) (g : G) (c : GameCall T) (_ : G) : Prop :=
  ∀ msgs t, c = .update msgs t → done g = false

/-- The property makes a game done, and only an update gives it to a game. -/
structure EndsInUpdate (P : GameInstance T G → Prop) (done : G → Bool) : Prop where
  isDone : ∀ inst, P inst → ∀ g, done g = true → inst.isDone g = true
  construct : ∀ inst, P inst → ∀ data, inst.isValid (inst.construct data) = true →
    done (inst.construct data) = false
  connect : ∀ inst, P inst → ∀ g out pid, done (inst.connect g out pid).1 = done g
  disconnect : ∀ inst, P inst → ∀ g out pid, done (inst.disconnect g out pid).1 = done g

/-- The handlers were called with what the call passes on. -/
def Caused (log : List (Event T)) (sid : T.SessionId) : GameCall T → Prop
  | .connect pid => ∃ data, .handleOpen ⟨pid, sid⟩ data ∈ log
  | .disconnect pid => .handleClose ⟨pid, sid⟩ ∈ log
  | .update msgs _ => ∀ m ∈ msgs, .handleMessage ⟨m.1, sid⟩ m.2 ∈ log

/-- The entry of `m_games` is a valid game, constructed with the data of a player who connected
to the session, after calls of which the first connects that player and each has a cause. -/
structure Hosted (P : GameInstance T G → Prop) (done : G → Bool) (log : List (Event T))
    (sid : T.SessionId) (g : Game T G) : Prop where
  played : ∃ inst pid data rest, P inst ∧ .handleOpen ⟨pid, sid⟩ data ∈ log ∧
    inst.isValid (inst.construct data) = true ∧ g.calls = .connect pid :: rest ∧
    ((instances P).restrict (Unended done)).Run (inst.construct data) g.calls g.game
  caused : ∀ c ∈ g.calls, Caused log sid c

variable {P : GameInstance T G → Prop} {done : G → Bool} {log evs : List (Event T)}
  {sid : T.SessionId} {g : Game T G} {c : GameCall T}

theorem Caused.append (h : Caused log sid c) : Caused (log ++ evs) sid c := by
  cases c with
  | connect pid =>
    obtain ⟨data, hd⟩ := h
    exact ⟨data, List.mem_append_left _ hd⟩
  | disconnect pid => exact List.mem_append_left _ h
  | update msgs t => exact fun m hm => List.mem_append_left _ (h m hm)

theorem Hosted.append (h : Hosted P done log sid g) : Hosted P done (log ++ evs) sid g where
  played := by
    obtain ⟨inst, pid, data, rest, hp, hd, hv, hc, hr⟩ := h.played
    exact ⟨inst, pid, data, rest, hp, List.mem_append_left _ hd, hv, hc, hr⟩
  caused c hc := (h.caused c hc).append

theorem Hosted.call {state : G} {inst : GameInstance T G} (h : Hosted P done log sid g)
    (hp : P inst) (hs : InstanceStep inst g.game c state) (hc : Caused log sid c)
    (hu : Unended done g.game c state) : Hosted P done log sid ⟨state, g.calls ++ [c]⟩ where
  played := by
    obtain ⟨inst₀, pid, data, rest, hp₀, hd, hv, hcalls, hr⟩ := h.played
    refine ⟨inst₀, pid, data, rest ++ [c], hp₀, hd, hv, ?_, hr.snoc ⟨⟨inst, hp, hs⟩, hu⟩⟩
    rw [hcalls, List.cons_append]
  caused c' hc' := by
    rcases List.mem_append.1 hc' with hc' | hc'
    · exact h.caused c' hc'
    · exact List.mem_singleton.1 hc' ▸ hc

theorem Hosted.create {state : G} {inst : GameInstance T G} {pid : T.PlayerId} (hp : P inst)
    (hd : .handleOpen ⟨pid, sid⟩ data ∈ log) (hv : inst.isValid (inst.construct data) = true)
    (hs : InstanceStep inst (inst.construct data) (.connect pid) state) :
    Hosted P done log sid ⟨state, [.connect pid]⟩ where
  played := by
    refine ⟨inst, pid, data, [], hp, hd, hv, rfl, .cons ⟨⟨inst, hp, hs⟩, ?_⟩ .nil⟩
    intro msgs t h
    cases h
  caused c hc := by
    cases List.mem_singleton.1 hc
    exact ⟨data, hd⟩

end Instance

section Local

variable {T : Traits} {G Worker : Type} {cfg : Config T} {inst : GameInstance T G}
  {timestep : Int} {gs gs' : GameServer T G Worker} {sid : T.SessionId}
  {log evs : List (Event T)}

/-- After `process_game_updates` and before the search for ended games. -/
def GamePc.beforeSearch : GamePc T → Bool
  | .sending _ | .sendingTo _ _ _ => true
  | _ => false

inductive GameChange (inst : GameInstance T G) (gs : GameServer T G Worker)
    (sid : T.SessionId) : Game T G → Prop where
  | keep : gs.games.lookup sid = some g → GameChange inst gs sid g
  | create : gs.loop.todo = .connection ⟨pid, sid⟩ data :: todo →
      gs.games.lookup sid = none → inst.isValid (inst.construct data) = true →
      InstanceStep inst (inst.construct data) (.connect pid) state →
      GameChange inst gs sid ⟨state, [.connect pid]⟩
  | connect : gs.loop.todo = .connection ⟨pid, sid⟩ data :: todo →
      gs.games.lookup sid = some g → InstanceStep inst g.game (.connect pid) state →
      GameChange inst gs sid ⟨state, g.calls ++ [.connect pid]⟩
  | disconnect : gs.loop.todo = .disconnection ⟨pid, sid⟩ :: todo →
      gs.games.lookup sid = some g → InstanceStep inst g.game (.disconnect pid) state →
      GameChange inst gs sid ⟨state, g.calls ++ [.disconnect pid]⟩
  | update : gs.loop = .updating t → gs.games.lookup sid = some g →
      InstanceStep inst g.game (.update (gs.filed sid) t) state →
      GameChange inst gs sid ⟨state, g.calls ++ [.update (gs.filed sid) t]⟩

theorem lookup_connectPlayer (inst : GameInstance T G) (gs : GameServer T G Worker)
    (g : Game T G) (cid : CombinedId T) (sid : T.SessionId) :
    (gs.connectPlayer inst g cid).games.lookup sid =
      if sid = cid.session then
        some ⟨(inst.connect g.game (gs.outOf cid.session) cid.player).1,
          g.calls ++ [.connect cid.player]⟩
      else gs.games.lookup sid :=
  Map.lookup_insert_ite _ _ _ _

theorem lookup_disconnectPlayer (inst : GameInstance T G) (gs : GameServer T G Worker)
    (g : Game T G) (cid : CombinedId T) (sid : T.SessionId) :
    (gs.disconnectPlayer inst g cid).games.lookup sid =
      if sid = cid.session then
        some ⟨(inst.disconnect g.game (gs.outOf cid.session) cid.player).1,
          g.calls ++ [.disconnect cid.player]⟩
      else gs.games.lookup sid :=
  Map.lookup_insert_ite _ _ _ _

theorem LoopStep.gameChange {g' : Game T G} (h : LoopStep cfg inst timestep gs evs gs')
    (hg : gs'.games.lookup sid = some g') : GameChange inst gs sid g' := by
  cases h with
  | @disconnectPlayer g _ cid t todo hl hold =>
    have hg₀ := (lookup_disconnectPlayer inst gs g cid sid).symm.trans hg
    split at hg₀
    · next hs =>
      subst hs
      cases hg₀
      exact .disconnect (congrArg GamePc.todo hl) hold (.disconnect _ _)
    · exact .keep hg₀
  | @connectPlayer g _ cid t todo data hl hold =>
    have hg₀ := (lookup_connectPlayer inst gs g cid sid).symm.trans hg
    split at hg₀
    · next hs =>
      subst hs
      cases hg₀
      exact .connect (congrArg GamePc.todo hl) hold (.connect _ _)
    · exact .keep hg₀
  | @createGame data _ cid t todo hl hn hv =>
    have hg₀ := (lookup_connectPlayer inst (gs.createGame cid.session (inst.construct data))
      ⟨inst.construct data, []⟩ cid sid).symm.trans hg
    split at hg₀
    · next hs =>
      subst hs
      cases hg₀
      exact .create (congrArg GamePc.todo hl) hn hv (.connect _ _)
    · next hs =>
      rw [GameServer.createGame, Map.lookup_insert_ite, if_neg hs] at hg₀
      exact .keep hg₀
  | @eraseFinished a rest _ t hl hf =>
    have hg₀ := (gs.lookup_eraseGame a sid).symm.trans hg
    split at hg₀
    · cases hg₀
    · exact .keep hg₀
  | @updateGames _ t order hl hn ho =>
    have hg₀ := (gs.lookup_processGameUpdates inst t order hn ho sid).symm.trans hg
    obtain ⟨g, hold, rfl⟩ := Option.map_eq_some_iff.1 hg₀
    exact .update hl hold (.update (gs.outOf sid) _ _)
  | _ => exact .keep hg

def ConnectionUpdate.Handled (log : List (Event T)) : ConnectionUpdate T → Prop
  | .connection id data => .handleOpen id data ∈ log
  | .disconnection id => .handleClose id ∈ log

structure Handled (gs : GameServer T G Worker) : Prop where
  todo : ∀ u ∈ gs.loop.todo, u.Handled gs.base.log
  first : ∀ u ∈ gs.connectionUpdates.1, u.Handled gs.base.log
  second : ∀ u ∈ gs.connectionUpdates.2, u.Handled gs.base.log
  filed : ∀ sid, ∀ m ∈ gs.filed sid, .handleMessage ⟨m.1, sid⟩ m.2 ∈ gs.base.log
  batch : ∀ sid, ∀ m ∈ gs.batchOf sid, .handleMessage ⟨m.1, sid⟩ m.2 ∈ gs.base.log

theorem ConnectionUpdate.Handled.append {u : ConnectionUpdate T} (h : u.Handled log) :
    u.Handled (log ++ evs) := by
  cases u with
  | connection id data | disconnection id => exact List.mem_append_left _ h

theorem handled_of_connectionUpdate {u : ConnectionUpdate T}
    (h : u ∈ evs.filterMap Event.connectionUpdate) : u.Handled evs := by
  obtain ⟨e, he, hu⟩ := List.mem_filterMap.1 h
  cases e with
  | handleOpen id data | handleClose id =>
    cases hu
    exact he
  | _ => cases hu

theorem handled_of_inMessage {m : Message T} (h : m ∈ evs.filterMap (Event.inMessage sid)) :
    .handleMessage ⟨m.1, sid⟩ m.2 ∈ evs := by
  obtain ⟨e, he, hm⟩ := List.mem_filterMap.1 h
  cases e with
  | handleMessage id msg =>
    simp only [Event.inMessage] at hm
    split at hm
    · next hs =>
      subst hs
      cases hm
      exact he
    · cases hm
  | _ => cases hm

theorem ConnectionUpdate.Handled.of_suffix {u : ConnectionUpdate T} (h : u.Handled evs) :
    u.Handled (log ++ evs) := by
  cases u with
  | connection id data | disconnection id => exact List.mem_append_right _ h

theorem Handled.pushes (h : Handled gs) (hp : Pushes gs evs gs')
    (hlog : gs'.base.log = gs.base.log ++ evs) : Handled gs' := by
  constructor
  · rw [hp.loop, hlog]
    exact fun u hu => (h.todo u hu).append
  · rw [hp.updates, hlog]
    intro u hu
    rcases List.mem_append.1 hu with hu | hu
    · exact (h.first u hu).append
    · exact (handled_of_connectionUpdate hu).of_suffix
  · rw [hp.updates, hlog]
    exact fun u hu => (h.second u hu).append
  · intro sid m hm
    rw [GameServer.filed, hp.messages] at hm
    rw [hlog]
    rcases List.mem_append.1 hm with hm | hm
    · exact List.mem_append_left _ (h.filed sid m hm)
    · exact List.mem_append_right _ (handled_of_inMessage hm)
  · intro sid m hm
    rw [GameServer.batchOf, hp.batch] at hm
    rw [hlog]
    exact List.mem_append_left _ (h.batch sid m hm)

theorem Handled.advance (h : Handled gs) (htodo : gs'.loop.todo ⊆ gs.loop.todo)
    (hupdates : gs'.connectionUpdates = gs.connectionUpdates)
    (hmessages : gs'.inMessages = gs.inMessages) (hlog : gs'.base.log = gs.base.log ++ evs) :
    Handled gs' := by
  constructor
  · rw [hlog]
    exact fun u hu => (h.todo u (htodo hu)).append
  · rw [hupdates, hlog]
    exact fun u hu => (h.first u hu).append
  · rw [hupdates, hlog]
    exact fun u hu => (h.second u hu).append
  · rw [hlog]
    intro sid m hm
    rw [GameServer.filed, hmessages] at hm
    exact List.mem_append_left _ (h.filed sid m hm)
  · rw [hlog]
    intro sid m hm
    rw [GameServer.batchOf, hmessages] at hm
    exact List.mem_append_left _ (h.batch sid m hm)

theorem LoopStep.handled (h : LoopStep cfg inst timestep gs evs gs')
    (hlog : gs'.base.log = gs.base.log ++ evs) (hs : Handled gs) : Handled gs' := by
  have next {u : ConnectionUpdate T} {todo : List (ConnectionUpdate T)} {t : Int}
      (hl : gs.loop = .connecting t (u :: todo)) (hl' : gs'.loop = .connecting t todo) :
      gs'.loop.todo ⊆ gs.loop.todo := by
    rw [hl, hl']
    exact List.subset_cons_self _ _
  cases h with
  | swapUpdates hl ht =>
    exact ⟨hs.first, hs.second, hs.first, hs.filed, hs.batch⟩
  | disconnectPlayer hl | connectPlayer hl | createGame hl | disconnectIgnored hl
  | rejectData hl => exact hs.advance (next hl rfl) rfl rfl hlog
  | clearUpdates hl =>
    exact ⟨List.forall_mem_nil _, hs.first, List.forall_mem_nil _, hs.filed, hs.batch⟩
  | eraseFinished hl => exact hs.advance (List.Subset.refl _) rfl rfl hlog
  | updateGames order hl hn ho =>
    rw [GameServer.processGameUpdates_eq]
    refine ⟨List.forall_mem_nil _, hs.first, hs.second, hs.batch, ?_⟩
    intro sid m hm
    cases hm
  | _ => exact hs.advance (List.nil_subset _) rfl rfl hlog

theorem LoopStep.updating_next (h : LoopStep cfg inst timestep gs evs gs')
    (hl : gs.loop = .updating t) : gs'.loop.beforeSearch = true := by
  cases h with
  | updateGames => rfl
  | enter _ h₀ | exit h₀ | lock h₀ | noGames h₀ | wait h₀ | pass h₀ | wakeStopped h₀ | wake h₀
  | recheck h₀ | relock h₀ | sleep h₀ | swapUpdates h₀ | disconnectPlayer h₀
  | disconnectIgnored h₀ | connectPlayer h₀ | createGame h₀ | rejectData h₀ | clearUpdates h₀
  | eraseFinished h₀ | clearFinished h₀ | sendSession _ h₀ | sendMessage h₀ | clearMessages h₀
  | sendDone h₀
  | skipGame _ h₀ | endGame _ h₀ | pushFinished h₀ | finish h₀ =>
    rw [hl] at h₀
    cases h₀

theorem LoopStep.search (h : LoopStep cfg inst timestep gs evs gs')
    (hg : gs.games.lookup sid = some g) (hd : inst.isDone g.game = true)
    (hs : gs.loop.beforeSearch = true ∨ sid ∈ gs.loop.unfinished) :
    gs'.Ended sid ∨ gs'.loop.beforeSearch = true ∨ sid ∈ gs'.loop.unfinished := by
  have elsewhere {P : Prop} (hb : gs.loop.beforeSearch = false) (hu : gs.loop.unfinished = ∅) :
      P := by
    rcases hs with hs | hs
    · cases hb.symm.trans hs
    · rw [hu] at hs
      exact (Finset.notMem_empty sid hs).elim
  cases h with
  | sendSession | sendMessage | clearMessages => exact .inr (.inl rfl)
  | sendDone => exact .inr (.inr ((Map.mem_keys_iff _).2 ⟨g, hg⟩))
  | @skipGame todo g' _ a hl hm hg' hd' =>
    rw [hl] at hs
    obtain hs : sid ∈ todo := hs.resolve_left nofun
    have hne : sid ≠ a := by
      intro he
      subst he
      rw [hg] at hg'
      cases hg'
      cases hd.symm.trans hd'
    exact .inr (.inr (Finset.mem_erase.2 ⟨hne, hs⟩))
  | @endGame todo g' _ s pc a hl hm hg' hd' hc =>
    rw [hl] at hs
    obtain hs : sid ∈ todo := hs.resolve_left nofun
    by_cases he : sid = a
    · exact .inl (.inr (congrArg some he.symm))
    · exact .inr (.inr (Finset.mem_insert_of_mem (Finset.mem_erase.2 ⟨he, hs⟩)))
  | @pushFinished _ a todo hl =>
    rw [hl] at hs
    obtain hs : sid ∈ insert a todo := hs.resolve_left nofun
    rcases Finset.mem_insert.1 hs with he | hs
    · exact .inl (.inl (List.mem_append_right _ (List.mem_singleton.2 he)))
    · exact .inr (.inr hs)
  | finish hl =>
    rw [hl] at hs
    exact (Finset.notMem_empty sid (hs.resolve_left nofun)).elim
  | enter _ h₀ | exit h₀ | lock h₀ | noGames h₀ | wait h₀ | pass h₀ | wakeStopped h₀ | wake h₀
  | recheck h₀ | relock h₀ | sleep h₀ | swapUpdates h₀ | disconnectPlayer h₀
  | disconnectIgnored h₀ | connectPlayer h₀ | createGame h₀ | rejectData h₀ | clearUpdates h₀
  | eraseFinished h₀ | clearFinished h₀ | updateGames _ h₀ =>
    exact elsewhere (by rw [h₀]; rfl) (by rw [h₀]; rfl)

variable {P : GameInstance T G → Prop} {done : G → Bool}

structure Hosting (P : GameInstance T G → Prop) (done : G → Bool) (gs : GameServer T G Worker) :
    Prop where
  handled : Handled gs
  hosted : ∀ sid g, gs.games.lookup sid = some g → Hosted P done gs.base.log sid g
  ended : ∀ sid g, gs.games.lookup sid = some g → done g.game = true →
    gs.Ended sid ∨ gs.loop.beforeSearch = true ∨ sid ∈ gs.loop.unfinished

theorem Hosting.unended (h : Hosting P done gs) (hs : LifeCycle gs) (hl : gs.loop = .updating t)
    (hg : gs.games.lookup sid = some g) : done g.game = false := by
  cases hd : done g.game with
  | false => rfl
  | true =>
    have hnone : gs.finishedGames = [] := hs.erased (by rw [hl]; rfl)
    have he := h.ended sid g hg hd
    simp only [GameServer.Ended, hnone, hl, GamePc.ended, GamePc.beforeSearch,
      GamePc.unfinished, List.not_mem_nil, Finset.notMem_empty, reduceCtorEq, or_self] at he

theorem Hosting.change (h : Hosting P done gs) (hs : LifeCycle gs) (hp : P inst)
    (hc : GameChange inst gs sid g) : Hosted P done gs.base.log sid g := by
  have caused {u : ConnectionUpdate T} {todo : List (ConnectionUpdate T)}
      (hl : gs.loop.todo = u :: todo) : u.Handled gs.base.log := by
    apply h.handled.todo u
    rw [hl]
    exact List.mem_cons_self
  cases hc with
  | keep hg => exact h.hosted sid g hg
  | create hl hn hv hstep => exact .create hp (caused hl) hv hstep
  | connect hl hg hstep => exact (h.hosted sid _ hg).call hp hstep ⟨_, caused hl⟩ nofun
  | disconnect hl hg hstep => exact (h.hosted sid _ hg).call hp hstep (caused hl) nofun
  | update hl hg hstep =>
    apply (h.hosted sid _ hg).call hp hstep (h.handled.filed sid)
    exact fun _ _ _ => h.unended hs hl hg

/-- A game with the property after a step has been updated in this step or had the property. -/
theorem GameChange.was_done (hc : GameChange inst gs sid g) (he : EndsInUpdate P done) (hp : P inst)
    (hd : done g.game = true) :
    (∃ t, gs.loop = .updating t) ∨
      ∃ g₀, gs.games.lookup sid = some g₀ ∧ done g₀.game = true := by
  cases hc with
  | keep hg => exact .inr ⟨g, hg, hd⟩
  | create hl hn hv hstep =>
    cases hstep with
    | connect out pid =>
      have hundone := he.construct inst hp _ hv
      have hdone := (he.connect inst hp _ out _).symm.trans hd
      cases hundone.symm.trans hdone
  | connect hl hg hstep =>
    cases hstep with
    | connect out pid => exact .inr ⟨_, hg, (he.connect inst hp _ out _).symm.trans hd⟩
  | disconnect hl hg hstep =>
    cases hstep with
    | disconnect out pid => exact .inr ⟨_, hg, (he.disconnect inst hp _ out _).symm.trans hd⟩
  | update hl hg hstep => exact .inl ⟨_, hl⟩

theorem Hosting.loop (h : Hosting P done gs) (hs : LifeCycle gs) (he : EndsInUpdate P done)
    (hp : P inst) (hstep : LoopStep cfg inst timestep gs evs gs')
    (hlog : gs'.base.log = gs.base.log ++ evs) : Hosting P done gs' := by
  constructor
  · exact hstep.handled hlog h.handled
  · intro sid g hg
    rw [hlog]
    exact (h.change hs hp (hstep.gameChange hg)).append
  · intro sid g hg hd
    rcases (hstep.gameChange hg).was_done he hp hd with ⟨t, hl⟩ | ⟨g₀, hg₀, hd₀⟩
    · exact .inr (.inl (hstep.updating_next hl))
    rcases h.ended sid g₀ hg₀ hd₀ with hended | hsearch
    · by_cases herase : Erases gs gs' sid
      · have hnone := hstep.erases herase
        rw [hg] at hnone
        cases hnone
      · exact .inl (hstep.ended hended herase)
    · exact hstep.search hg₀ (he.isDone inst hp g₀.game hd₀) hsearch

theorem Hosting.outside (h : Hosting P done gs) (hp : Pushes gs evs gs') (ho : Outside gs gs')
    (hlog : gs'.base.log = gs.base.log ++ evs) : Hosting P done gs' := by
  constructor
  · exact h.handled.pushes hp hlog
  · intro sid g hg
    rw [ho.games] at hg
    rw [hlog]
    exact (h.hosted sid g hg).append
  · intro sid g hg hd
    rw [ho.games] at hg
    rw [GameServer.Ended, ho.finishedGames, ho.loop]
    exact h.ended sid g hg hd

end Local

section Run

variable {T : Traits} {G Worker : Type} [DecidableEq Worker] {cfg : Config T}
  {P : GameInstance T G → Prop} {done : G → Bool} {timestep : Int}
  {gs gs' : GameServer T G Worker}

theorem hosting_invariant (he : EndsInUpdate P done) :
    (varyingServer cfg P timestep).Invariant fun gs : GameServer T G Worker =>
      Hosting P done gs where
  init := by
    intro gs hinit
    obtain ⟨t, rfl⟩ := hinit
    constructor
    · constructor
      · exact List.forall_mem_nil _
      · exact List.forall_mem_nil _
      · exact List.forall_mem_nil _
      · intro sid m hm
        cases hm
      · intro sid m hm
        cases hm
    · intro sid g hg
      cases hg
    · intro sid g hg
      cases hg
  step := by
    intro gs evs gs' hr h hstep
    have hs := lifeCycle_invariant.reachable hr
    obtain ⟨hn, inst, hp, hstep⟩ := hstep
    have hlog := hstep.log hn
    rcases hstep.pushes hn with hloop | hpush
    · exact h.loop hs he hp hloop hlog
    · rcases hstep.outside hn with hloop | ⟨ho, -⟩
      · exact h.loop hs he hp hloop hlog
      · exact h.outside hpush ho hlog

/-- Without `stop`, in every run: each entry of `m_games` is a valid game that was constructed
with the data of a player who connected to the session, after the calls made on it, each of which
passes on what the handlers were called with. If only updates end a game, a game that is done is
never updated: it waits to be found by the search, which completes its session with its state,
and to be erased before the next update. -/
theorem hosted_games (he : EndsInUpdate P done)
    (h : (varyingServer cfg P timestep).Reachable gs) :
    (∀ sid g, gs.games.lookup sid = some g → Hosted P done gs.base.log sid g ∧
      (done g.game = true →
        gs.Ended sid ∨ gs.loop.beforeSearch = true ∨ sid ∈ gs.loop.unfinished)) ∧
    ∀ evs gs' sid, (varyingServer cfg P timestep).step gs evs gs' → EndsGame gs gs' sid →
      ∃ inst g, P inst ∧ gs.games.lookup sid = some g ∧ inst.isDone g.game = true ∧
        evs = [.completing sid ⟨sid, inst.getState g.game⟩] ∧
        Hosted P done gs.base.log sid g := by
  have hh := (hosting_invariant he).reachable h
  constructor
  · exact fun sid g hg => ⟨hh.hosted sid g hg, hh.ended sid g hg⟩
  · intro evs gs' sid hstep hends
    obtain ⟨hn, inst, hp, hstep⟩ := hstep
    rcases hstep.outside hn with hloop | ⟨ho, -⟩
    · obtain ⟨g, hg, hd, hevs, -⟩ := hloop.ends_game hends
      exact ⟨inst, g, hp, hg, hd, hevs, hh.hosted sid g hg⟩
    · obtain ⟨⟨todo, hl⟩, hended⟩ := hends
      rw [ho.loop, hl] at hended
      cases hended

end Run

/-- A game of natural numbers that is over after the first message. -/
def onceGame : GameInstance natTraits Nat := { natGame with isDone g := decide (0 < g) }

theorem onceGame_endsInUpdate : EndsInUpdate (· = onceGame) fun g => decide (0 < g) where
  isDone := by
    rintro inst rfl g hd
    exact hd
  construct := by
    rintro inst rfl data hv
    have hzero : data = 0 := of_decide_eq_true hv
    rw [hzero]
    rfl
  connect := by
    rintro inst rfl g out pid
    rfl
  disconnect := by
    rintro inst rfl g out pid
    rfl

theorem once_step {gs gs' : GameServer natTraits Nat Unit}
    (h : (varyingServer natConfig (· = onceGame) 0).Reachable gs) (hn : .stopping ∉ evs)
    (hs : GameStep natConfig onceGame 0 gs evs gs') :
    (varyingServer natConfig (· = onceGame) 0).Reachable gs' :=
  h.step ⟨hn, onceGame, rfl, hs⟩

theorem once_loop {gs gs' : GameServer natTraits Nat Unit}
    (h : (varyingServer natConfig (· = onceGame) 0).Reachable gs)
    (hidle : gs.base.caller () = .idle) (hs : LoopStep natConfig onceGame 0 gs [] gs') :
    (varyingServer natConfig (· = onceGame) 0).Reachable gs' :=
  once_step h List.not_mem_nil (.loop hidle hs)

theorem zoe_over :
    (∃ (gs gs' : GameServer natTraits Nat Unit) (g : Game natTraits Nat)
      (evs : List (Event natTraits)), (varyingServer natConfig (· = onceGame) 0).Reachable gs ∧
      gs.games.lookup 8 = some g ∧ g.calls = [.connect 4, .update [(4, "hi")] 0] ∧
      (varyingServer natConfig (· = onceGame) 0).step gs evs gs' ∧ EndsGame gs gs' 8) ∧
    ∃ gs : GameServer natTraits Nat Unit,
      (varyingServer natConfig (· = onceGame) 0).Reachable gs ∧
      .result ⟨(4 : Nat), (8 : Nat)⟩ "matched" ∈ gs.base.log := by
  have h0 : (varyingServer natConfig (· = onceGame) 0).Reachable
      (GameServer.start 0 : GameServer natTraits Nat Unit) := .init ⟨0, rfl⟩
  have h1 := once_step h0 (by simp) (.run (.run rfl))
  have h2 := once_step h1 (by simp) (.transport (.onMessage (5 : Nat) "zoe"))
  have h3 := once_step h2 (by simp) (.transport (.onMessage (5 : Nat) "hi"))
  have h4 := once_step h3 (by simp) (.worker () (.enter rfl) nofun)
  have h5 := once_step h4 (by simp) (.worker () (.pop rfl) nofun)
  have h6 := once_step h5 (by simp) (.worker () (.messageUnbound rfl rfl) nofun)
  have h7 := once_step h6 (by simp) (.worker () (.openSession ⟨0, 0⟩ rfl rfl rfl) nofun)
  have h8 := once_step h7 (by simp) (.worker () .setupConnectionId nofun)
  have h9 := once_step h8 (by simp) (.worker () .handleOpen nofun)
  have h10 := once_step h9 (by simp) (.worker () (.enter rfl) nofun)
  have h11 := once_step h10 (by simp) (.worker () (.pop rfl) nofun)
  have h12 := once_step h11 (by simp) (.worker () (.messageBound rfl rfl) nofun)
  have h13 := once_step h12 (by simp) (.worker () .handleMessage nofun)
  have h14 := once_loop h13 rfl (.enter 0 rfl rfl)
  have h15 := once_loop h14 rfl (.noGames rfl rfl)
  have h16 := once_loop h15 rfl (.pass rfl nofun)
  have h17 := once_loop h16 rfl (.relock rfl)
  have h18 := once_loop h17 rfl (.swapUpdates rfl (by decide))
  have h19 := once_loop h18 rfl (.createGame rfl rfl rfl)
  have h20 := once_loop h19 rfl (.clearUpdates rfl)
  have h21 := once_loop h20 rfl (.clearFinished rfl rfl)
  have h22 := once_loop h21 rfl (.updateGames [(8 : Nat)] rfl (by decide) rfl)
  have h23 := once_loop h22 rfl (.sendSession (8 : Nat) rfl (by decide))
  have h24 := once_loop h23 rfl (.clearMessages rfl)
  have h25 := once_loop h24 rfl (.sendDone rfl)
  constructor
  · exact ⟨_, _, _, _, h25, rfl, rfl, ⟨by simp, onceGame, rfl, .loop rfl
      (.endGame (8 : Nat) rfl (by decide) rfl rfl (.completeSession ⟨0, 0⟩ _ _ rfl rfl))⟩,
      ⟨_, rfl⟩, rfl⟩
  · have h26 := once_step h25 (by simp) (.loop rfl
      (.endGame (8 : Nat) rfl (by decide) rfl rfl (.completeSession ⟨0, 0⟩ _ _ rfl rfl)))
    have h27 := once_step h26 (by simp) (.call nofun (.findPlayer (4 : Nat) (by decide) rfl))
    have h28 := once_step h27 (by simp) (.call nofun .closePlayer)
    exact ⟨_, h28, List.mem_append_right _ List.mem_cons_self⟩

/-- Zoe's game after her message, which is found to be over. -/
theorem hosted_games_zoe :
    ∃ (gs gs' : GameServer natTraits Nat Unit) (g : Game natTraits Nat)
      (evs : List (Event natTraits)),
      gs.games.lookup 8 = some g ∧ g.calls = [.connect 4, .update [(4, "hi")] 0] ∧
      Hosted (· = onceGame) (fun g => decide (0 < g)) gs.base.log 8 g ∧
      EndsGame gs gs' 8 ∧ 0 < g.game ∧ evs = [.completing 8 ⟨(8 : Nat), g.game⟩] := by
  obtain ⟨gs, gs', g, evs, h, hg, hc, hs, hends⟩ := zoe_over.1
  obtain ⟨hgames, hended⟩ := hosted_games onceGame_endsInUpdate h
  obtain ⟨inst, g', rfl, hg', hd, hevs, -⟩ := hended evs gs' 8 hs hends
  cases hg.symm.trans hg'
  exact ⟨gs, gs', g, evs, hg, hc, (hgames 8 g hg).1, hends, of_decide_eq_true hd, hevs⟩

end WebGameServer
