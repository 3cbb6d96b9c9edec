import WebGameServer.GameServer.LifeCycle

namespace WebGameServer
set_option autoImplicit true

/-- What the functions of the instance leave in the output vector starts with what they found
there. -/
structure GameInstance.Appends {T : Traits} {G : Type} (inst : GameInstance T G) : Prop where
  connect : ∀ g out pid, out <+: (inst.connect g out pid).2
  disconnect : ∀ g out pid, out <+: (inst.disconnect g out pid).2
  update : ∀ g out msgs t, out <+: (inst.update g out msgs t).2

section Local

variable {T : Traits} {G Worker : Type} {cfg : Config T} {inst : GameInstance T G}
  {timestep : Int} {gs gs' : GameServer T G Worker} {sid : T.SessionId}

/-- The player and the text of a call of `send_message` for the session. -/
def Event.sentMessage (sid : T.SessionId) : Event T → Option (Message T)
  | .sending id msg => if id.session = sid then some (id.player, msg) else none
  | _ => none

/-- The thread is not between the swap of the connection updates and the end of the loop over
`m_out_messages`. -/
def GamePc.afterSending : GamePc T → Bool
  | .connecting _ _ | .erasing _ | .updating _ | .sending _ | .sendingTo _ _ _ => false
  | _ => true

def GamePc.filling : GamePc T → Bool
  | .connecting _ _ | .erasing _ | .updating _ => true
  | _ => false

/-- Before `process_game_updates`. -/
def GamePc.updatingGames : GamePc T → Bool
  | .updating _ => true
  | _ => false

/-- What the tick in progress still has to send from the present output of the session. -/
def GameServer.remaining (gs : GameServer T G Worker) (sid : T.SessionId) : List (Message T) :=
  match gs.loop with
  | .connecting _ _ | .erasing _ | .updating _ => gs.outOf sid
  | .sending todo => if sid ∈ todo then gs.outOf sid else []
  | .sendingTo a msgs todo => if sid = a then msgs else if sid ∈ todo then gs.outOf sid else []
  | _ => []

/-- What the step appends to the output vector of the session. -/
def GameServer.appended (gs gs' : GameServer T G Worker) (sid : T.SessionId) :
    List (Message T) :=
  (gs'.outOf sid).drop (gs.outOf sid).length

/-- What the step appends in `process_connection_updates`. -/
def GameServer.connected (gs gs' : GameServer T G Worker) (sid : T.SessionId) :
    List (Message T) :=
  if gs.loop.processing then gs.appended gs' sid else []

/-- What the step appends in `process_game_updates`. -/
def GameServer.added (gs gs' : GameServer T G Worker) (sid : T.SessionId) : List (Message T) :=
  if gs.loop.updatingGames then gs.appended gs' sid else []

def BeginsTick (gs gs' : GameServer T G Worker) : Prop :=
  (∃ t, gs.loop = .timing t) ∧ gs'.loop.processing = true

theorem GamePc.afterSending_idle {pc : GamePc T} (h : pc.afterSending = true) :
    pc.processing = false ∧ pc.updatingGames = false := by
  cases pc with
  | connecting t todo | updating t => cases h
  | _ => exact ⟨rfl, rfl⟩

theorem GamePc.afterSending_empty {pc : GamePc T} (h : pc.afterSending = true) :
    pc.filling = false ∧ pc.unsent = ∅ := by
  cases pc with
  | connecting t todo | erasing t | updating t | sending todo | sendingTo a msgs todo => cases h
  | _ => exact ⟨rfl, rfl⟩

theorem remaining_afterSending (h : gs.loop.afterSending = true) : gs.remaining sid = [] := by
  rw [GameServer.remaining]
  cases hl : gs.loop with
  | connecting t todo | erasing t | updating t | sending todo | sendingTo a msgs todo =>
    rw [hl] at h
    cases h
  | _ => rfl

theorem outOf_append (h : gs.outOf sid <+: gs'.outOf sid) :
    gs'.outOf sid = gs.outOf sid ++ gs.appended gs' sid :=
  (List.prefix_iff_eq_append.1 h).symm

theorem appended_same (h : gs'.outOf sid = gs.outOf sid) : gs.appended gs' sid = [] := by
  rw [GameServer.appended, h, List.drop_length]

theorem outOf_store (gs : GameServer T G Worker) (a sid : T.SessionId)
    (calls : List (GameCall T)) (r : G × List (Message T)) :
    (gs.store a calls r).outOf sid = if sid = a then r.2 else gs.outOf sid := by
  rw [GameServer.outOf, GameServer.store, Map.lookup_insert_ite]
  split
  · rfl
  · rfl

theorem outOf_prefix_store {r : G × List (Message T)} (h : gs.outOf a <+: r.2)
    (calls : List (GameCall T)) : gs.outOf sid <+: (gs.store a calls r).outOf sid := by
  rw [outOf_store]
  split
  · next hs => exact hs ▸ h
  · exact List.prefix_rfl

theorem outOf_connectPlayer (ha : inst.Appends) (g : Game T G) (cid : CombinedId T) :
    gs.outOf sid <+: (gs.connectPlayer inst g cid).outOf sid :=
  outOf_prefix_store (ha.connect _ _ _) (g.calls ++ [.connect cid.player])

theorem outOf_disconnectPlayer (ha : inst.Appends) (g : Game T G) (cid : CombinedId T) :
    gs.outOf sid <+: (gs.disconnectPlayer inst g cid).outOf sid :=
  outOf_prefix_store (ha.disconnect _ _ _) (g.calls ++ [.disconnect cid.player])

theorem outOf_createGame (gs : GameServer T G Worker) (a sid : T.SessionId) (game : G) :
    (gs.createGame a game).outOf sid = gs.outOf sid := by
  rw [GameServer.outOf, GameServer.createGame, Map.lookup_emplace]
  split
  · next hs => rw [hs, Option.getD_some, GameServer.outOf]
  · rfl

theorem outOf_updateGame (ha : inst.Appends) (t : Int) (a : T.SessionId) :
    gs.outOf sid <+: (gs.updateGame inst t a).outOf sid := by
  rw [GameServer.updateGame]
  split
  · exact outOf_prefix_store (ha.update _ _ _ _) _
  · exact List.prefix_rfl

theorem outOf_processGameUpdates (ha : inst.Appends) (t : Int) (order : List T.SessionId) :
    gs.outOf sid <+: (gs.processGameUpdates inst t order).outOf sid := by
  have hfold (gs : GameServer T G Worker) :
      gs.outOf sid <+: (order.foldl (GameServer.updateGame inst t) gs).outOf sid := by
    induction order generalizing gs with
    | nil => exact List.prefix_rfl
    | cons a order ih => exact (outOf_updateGame ha t a).trans (ih _)
  exact hfold gs.swapMessages

theorem outOf_eraseGame (gs : GameServer T G Worker) (h : sid ≠ a) :
    (gs.eraseGame a).outOf sid = gs.outOf sid := by
  rw [GameServer.outOf, GameServer.eraseGame, Map.lookup_erase_ite, if_neg h, GameServer.outOf]

theorem remaining_all (gs : GameServer T G Worker) (sid : T.SessionId) :
    GameServer.remaining { gs with loop := .sending gs.outMessages.keys } sid = gs.outOf sid := by
  simp only [GameServer.remaining]
  split
  · rfl
  · next hm =>
    rw [Map.notMem_keys_iff] at hm
    rw [GameServer.outOf, hm, Option.getD_none]

/-- A step of the loop hands on all that is to be sent: what it sends and leaves is what it
found and appended, unless it erases the game. -/
theorem LoopStep.forwards (h : LoopStep cfg inst timestep gs evs gs') (ha : inst.Appends)
    (hb : ¬ BeginsTick gs gs')
    (he : ¬ Erases gs gs' sid) :
    evs.filterMap (Event.sentMessage sid) ++ gs'.remaining sid =
      gs.remaining sid ++ gs.connected gs' sid ++ gs.added gs' sid := by
  -- The output vectors are filled.
  have fill {t : Int} {todo : List (ConnectionUpdate T)} (hl : gs.loop = .connecting t todo)
      (hr : gs'.remaining sid = gs'.outOf sid) (ho : gs.outOf sid <+: gs'.outOf sid)
      (hevs : evs.filterMap (Event.sentMessage sid) = []) :
      evs.filterMap (Event.sentMessage sid) ++ gs'.remaining sid =
        gs.remaining sid ++ gs.connected gs' sid ++ gs.added gs' sid := by
    rw [hevs, hr, outOf_append ho, GameServer.remaining, GameServer.connected, GameServer.added,
      hl]
    simp only [GamePc.processing, GamePc.updatingGames, ↓reduceIte, Bool.false_eq_true,
      List.nil_append, List.append_nil]
  -- The output vectors are sent.
  have drain (hp : gs.loop.processing = false) (hu : gs.loop.updatingGames = false)
      (hr : evs.filterMap (Event.sentMessage sid) ++ gs'.remaining sid = gs.remaining sid) :
      evs.filterMap (Event.sentMessage sid) ++ gs'.remaining sid =
        gs.remaining sid ++ gs.connected gs' sid ++ gs.added gs' sid := by
    rw [hr, GameServer.connected, GameServer.added, hp, hu]
    simp only [Bool.false_eq_true, ↓reduceIte, List.append_nil]
  have idle (hp : gs.loop.afterSending = true) (hp' : gs'.loop.afterSending = true)
      (hevs : evs.filterMap (Event.sentMessage sid) = []) :
      evs.filterMap (Event.sentMessage sid) ++ gs'.remaining sid =
        gs.remaining sid ++ gs.connected gs' sid ++ gs.added gs' sid := by
    obtain ⟨hprocessing, hupdating⟩ := GamePc.afterSending_idle hp
    apply drain hprocessing hupdating
    rw [hevs, remaining_afterSending hp', remaining_afterSending hp, List.append_nil]
  cases h with
  | enter t hl hr | exit hl hr | lock hl hg | noGames hl hg | wait hl hu | pass hl hu
  | wakeStopped hl hr | wake hl hr hu | recheck hl hr hu | relock hl | sleep hl ht
  | skipGame a hl hm hg hd | endGame a hl hm hg hd hc | pushFinished hl | finish hl =>
    exact idle (by rw [hl]; rfl) rfl rfl
  | swapUpdates hl ht => exact (hb ⟨⟨_, hl⟩, rfl⟩).elim
  | disconnectPlayer hl hg => exact fill hl rfl (outOf_disconnectPlayer ha _ _) rfl
  | connectPlayer hl hg => exact fill hl rfl (outOf_connectPlayer ha _ _) rfl
  | @createGame data _ cid _ _ hl hn hv =>
    apply fill hl rfl ?_ rfl
    rw [← outOf_createGame gs cid.session sid (inst.construct data)]
    exact outOf_connectPlayer ha _ _
  | disconnectIgnored hl hg | rejectData hl hn hv hc | clearUpdates hl =>
    exact fill hl rfl List.prefix_rfl rfl
  | @eraseFinished a rest _ t hl hf =>
    have hne : sid ≠ a := fun hsid => he ⟨⟨_, hl⟩, hsid ▸ hf⟩
    have hloop : (gs.eraseGame a).loop = .erasing t := hl
    apply drain (by rw [hl]; rfl) (by rw [hl]; rfl)
    simp only [GameServer.remaining, hl, hloop, List.filterMap_nil, List.nil_append]
    exact outOf_eraseGame gs hne
  | clearFinished hl hf =>
    apply drain (by rw [hl]; rfl) (by rw [hl]; rfl)
    simp only [GameServer.remaining, hl, List.filterMap_nil, List.nil_append]
    rfl
  | @updateGames _ t order hl hn ho =>
    have hprefix : gs.outOf sid <+: (gs.processGameUpdates inst t order).outOf sid :=
      outOf_processGameUpdates ha t order
    have happend := outOf_append hprefix
    have hall := remaining_all (gs.processGameUpdates inst t order) sid
    rw [happend] at hall
    rw [List.filterMap_nil, List.nil_append, GameServer.connected, GameServer.added, hl]
    simp only [GameServer.remaining, hl, GamePc.processing, GamePc.updatingGames, ↓reduceIte,
      Bool.false_eq_true, List.append_nil]
    exact hall
  | sendSession a hl hm =>
    apply drain (by rw [hl]; rfl) (by rw [hl]; rfl)
    simp only [GameServer.remaining, hl, List.filterMap_nil, List.nil_append, Finset.mem_erase]
    by_cases hsid : sid = a
    · rw [if_pos hsid, hsid, if_pos hm]
    · rw [if_neg hsid]
      simp only [ne_eq, hsid, not_false_eq_true, true_and]
      rfl
  | @sendMessage _ a m msgs todo s pc hl hc =>
    apply drain (by rw [hl]; rfl) (by rw [hl]; rfl)
    simp only [GameServer.remaining, hl, List.filterMap_cons, Event.sentMessage]
    by_cases hsid : sid = a
    · simp only [hsid, ↓reduceIte, List.filterMap_nil, List.singleton_append]
    · simp only [hsid, Ne.symm hsid, ↓reduceIte, List.filterMap_nil, List.nil_append]
      rfl
  | @clearMessages _ a todo hl =>
    apply drain (by rw [hl]; rfl) (by rw [hl]; rfl)
    simp only [GameServer.remaining, hl, List.filterMap_nil, List.nil_append]
    by_cases hsid : sid = a
    · subst hsid
      simp only [↓reduceIte, GameServer.outOf, Finmap.lookup_insert, Option.getD_some, ite_self]
    · simp only [hsid, ↓reduceIte, GameServer.outOf, Map.lookup_insert_ite]
  | sendDone hl =>
    apply drain (by rw [hl]; rfl) (by rw [hl]; rfl)
    rw [GameServer.remaining, GameServer.remaining, hl]
    rfl

def Drained (gs : GameServer T G Worker) : Prop :=
  gs.loop.filling = false → ∀ sid, sid ∉ gs.loop.unsent → gs.outOf sid = []

theorem LoopStep.drained (h : LoopStep cfg inst timestep gs evs gs') (hs : Drained gs) :
    Drained gs' := by
  intro hf sid hn
  have idle {pc : GamePc T} (hl : gs.loop = pc) (hp : pc.filling = false)
      (hn : sid ∉ pc.unsent) : gs.outOf sid = [] := by
    subst hl
    exact hs hp sid hn
  cases h with
  | enter t hl hr | exit hl hr | lock hl hg | noGames hl hg | wait hl hu | pass hl hu
  | wakeStopped hl hr | wake hl hr hu | recheck hl hr hu | relock hl | sleep hl ht
  | skipGame a hl hm hg hd | endGame a hl hm hg hd hc | pushFinished hl | finish hl =>
    exact idle hl rfl hn
  | swapUpdates hl ht | disconnectPlayer hl hg | connectPlayer hl hg | createGame hl hn hv
  | disconnectIgnored hl hg | rejectData hl hn hv hc | clearUpdates hl | clearFinished hl hnil =>
    cases hf
  | eraseFinished hl hcons =>
    have he : gs.loop.filling = false := hf
    rw [hl] at he
    cases he
  | updateGames order hl hnodup ho =>
    have hnone := (Map.notMem_keys_iff _).1 hn
    exact congrArg (Option.getD · []) hnone
  | sendSession a hl hm =>
    apply idle hl rfl fun hm' => hn ?_
    by_cases hsid : sid = a
    · exact hsid ▸ Finset.mem_insert_self _ _
    · exact Finset.mem_insert_of_mem (Finset.mem_erase.2 ⟨hsid, hm'⟩)
  | sendMessage hl hc => exact idle hl rfl hn
  | @clearMessages _ a todo hl =>
    rw [GameServer.outOf, Map.lookup_insert_ite]
    split
    · rfl
    · next hsid =>
      apply idle hl rfl
      intro hm
      rcases Finset.mem_insert.1 hm with he | hm
      · exact hsid he
      · exact hn hm
  | sendDone hl => exact idle hl rfl (Finset.notMem_empty sid)

theorem LoopStep.processes (h : LoopStep cfg inst timestep gs evs gs')
    (hp : gs'.loop.beforeErasure = true) :
    BeginsTick gs gs' ∨
      (gs.loop.beforeErasure = true ∧ gs'.finishedGames ⊆ gs.finishedGames ∧
        (gs'.loop.processing = true → gs.loop.processing = true)) := by
  cases h with
  | @eraseFinished a rest _ t hl hf =>
    refine .inr ⟨hp, ?_, id⟩
    rw [hf]
    exact List.subset_cons_self a rest
  | swapUpdates hl ht => exact .inl ⟨⟨_, hl⟩, rfl⟩
  | disconnectPlayer hl hg | connectPlayer hl hg | createGame hl hn hv
  | disconnectIgnored hl hg | rejectData hl hn hv hc | clearUpdates hl =>
    exact .inr ⟨by rw [hl]; rfl, List.Subset.refl _, fun _ => by rw [hl]; rfl⟩
  | _ => cases hp

theorem LoopStep.begins (h : LoopStep cfg inst timestep gs evs gs') (hb : BeginsTick gs gs') :
    gs'.remaining sid = gs.outOf sid := by
  obtain ⟨⟨t, hl⟩, hp⟩ := hb
  cases h with
  | swapUpdates hl₀ ht => rfl
  | disconnectPlayer hl₀ | connectPlayer hl₀ | createGame hl₀ | disconnectIgnored hl₀
  | rejectData hl₀ | eraseFinished hl₀ =>
    rw [hl] at hl₀
    cases hl₀
  | _ => cases hp

theorem LoopStep.rests (h : LoopStep cfg inst timestep gs evs gs')
    (hp : gs.loop.afterSending = true) (hb : ¬ BeginsTick gs gs') :
    gs'.loop.afterSending = true := by
  cases h with
  | swapUpdates hl ht => exact (hb ⟨⟨_, hl⟩, rfl⟩).elim
  | disconnectPlayer hl | connectPlayer hl | createGame hl | disconnectIgnored hl
  | rejectData hl | clearUpdates hl | eraseFinished hl | clearFinished hl | updateGames _ hl
  | sendSession _ hl | sendMessage hl | clearMessages hl | sendDone hl =>
    rw [hl] at hp
    cases hp
  | _ => rfl

/-- A message is sent for a session with a game, when the ended games are erased. -/
theorem LoopStep.sends (h : LoopStep cfg inst timestep gs evs gs') (hs : LifeCycle gs)
    (hm : .sending cid msg ∈ evs) :
    gs.loop.afterErasure = true ∧ gs.games.lookup cid.session ≠ none := by
  cases h with
  | @sendMessage _ a m msgs todo s pc hl hc =>
    cases List.mem_singleton.1 hm
    have hunsent := hs.unsent
    rw [hl] at hunsent
    have hkey : a ∈ gs.games.keys := hunsent (Finset.mem_insert_self _ _)
    obtain ⟨g, hg⟩ := (Map.mem_keys_iff _).1 hkey
    refine ⟨by rw [hl]; rfl, ?_⟩
    rw [hg]
    exact nofun
  | _ => simp only [List.mem_cons, reduceCtorEq, List.not_mem_nil, or_false] at hm

theorem GamePc.afterErasure_sends {pc : GamePc T} (h : pc.afterErasure = true) :
    pc.afterSending = false ∧ pc.ended = none := by
  cases pc with
  | updating t | sending todo | sendingTo a msgs todo => exact ⟨rfl, rfl⟩
  | _ => cases h

/-- The connection updates that the tick has not processed yet are the last ones of its batch. -/
def BatchTail (gs : GameServer T G Worker) : Prop :=
  ∀ t todo, gs.loop = .connecting t todo → ∃ done, gs.connectionUpdates.2 = done ++ todo

theorem LoopStep.batchTail (h : LoopStep cfg inst timestep gs evs gs') (hs : BatchTail gs) :
    BatchTail gs' := by
  intro t todo hl'
  have next {u : ConnectionUpdate T} (hl : gs.loop = .connecting t (u :: todo)) :
      ∃ done, gs.connectionUpdates.2 = done ++ todo := by
    obtain ⟨done, he⟩ := hs _ _ hl
    exact ⟨done ++ [u], by rw [he, List.append_assoc, List.singleton_append]⟩
  cases h with
  | swapUpdates hl ht =>
    cases hl'
    exact ⟨[], rfl⟩
  | disconnectPlayer hl hg | connectPlayer hl hg | createGame hl hn hv
  | disconnectIgnored hl hg | rejectData hl hn hv hc =>
    cases hl'
    exact next hl
  | eraseFinished hl => cases hl.symm.trans hl'
  | _ => cases hl'

/-- In this tick no message is sent for the session any more: all output is sent, or the session
has no game and a connect of it was handled in this tick. -/
def Muted (sid : T.SessionId) (gs : GameServer T G Worker) : Prop :=
  gs.loop.afterSending = true ∨ (gs.games.lookup sid = none ∧
    ∀ t todo, gs.loop = .connecting t todo → ∃ done, gs.connectionUpdates.2 = done ++ todo ∧
      ∃ cid data, .connection cid data ∈ done ∧ cid.session = sid)

/-- A connect starts a game only if it is the first connect of its session in the batch. -/
def StartsFirst (gs gs' : GameServer T G Worker) : Prop :=
  ∀ t cid data todo done, gs.loop = .connecting t (.connection cid data :: todo) →
    gs.connectionUpdates.2 = done ++ .connection cid data :: todo →
    gs.games.lookup cid.session = none → gs'.games.lookup cid.session ≠ none →
    ∀ cid' data', .connection cid' data' ∈ done → cid'.session ≠ cid.session

theorem Muted.next {u : ConnectionUpdate T} (hn : gs'.games.lookup sid = none)
    (hl : gs.loop = .connecting t (u :: todo)) (hl' : gs'.loop = .connecting t todo)
    (hu : gs'.connectionUpdates = gs.connectionUpdates)
    (hm : ∀ t todo, gs.loop = .connecting t todo → ∃ done, gs.connectionUpdates.2 = done ++ todo ∧
      ∃ cid data, .connection cid data ∈ done ∧ cid.session = sid) : Muted sid gs' := by
  refine .inr ⟨hn, fun t' todo' he => ?_⟩
  obtain ⟨done, hd, cid, data, hc, hsid⟩ := hm _ _ hl
  rw [hl'] at he
  cases he
  refine ⟨done ++ [u], ?_, cid, data, List.mem_append_left _ hc, hsid⟩
  rw [hu, hd, List.append_assoc, List.singleton_append]

theorem LoopStep.muted (h : LoopStep cfg inst timestep gs evs gs') (hm : Muted sid gs)
    (hb : ¬ BeginsTick gs gs') (hfirst : StartsFirst gs gs') : Muted sid gs' := by
  rcases hm with ha | ⟨hn, hdone⟩
  · exact .inl (h.rests ha hb)
  have absent (hn' : gs'.games.lookup sid = none) (hp : gs'.loop.processing = false) :
      Muted sid gs' := by
    refine .inr ⟨hn', fun t todo hl => ?_⟩
    rw [hl] at hp
    cases hp
  have other {cid : CombinedId T} {g : Game T G} (hg : gs.games.lookup cid.session = some g) :
      sid ≠ cid.session := by
    rintro rfl
    rw [hn] at hg
    cases hg
  cases h with
  | swapUpdates hl ht => exact (hb ⟨⟨_, hl⟩, rfl⟩).elim
  | disconnectPlayer hl hg | connectPlayer hl hg =>
    refine .next ?_ hl rfl rfl hdone
    exact (Map.lookup_insert_ite _ _ _ _).trans ((if_neg (other hg)).trans hn)
  | @createGame data _ cid t todo hl hg hv =>
    obtain ⟨done, hd, cid', data', hc, hsid⟩ := hdone _ _ hl
    by_cases he : sid = cid.session
    · apply (hfirst _ _ _ _ _ hl hd hg ?_ cid' data' hc (hsid.trans he)).elim
      simp only [GameServer.connectPlayer, GameServer.store, Finmap.lookup_insert, ne_eq,
        reduceCtorEq, not_false_eq_true]
    · refine .next ?_ hl rfl rfl hdone
      simp only [GameServer.connectPlayer, GameServer.store, GameServer.createGame,
        Map.lookup_insert_ite, if_neg he, hn]
  | disconnectIgnored hl hg | rejectData hl hg hv hc => exact .next hn hl rfl rfl hdone
  | @eraseFinished a rest _ t hl hf =>
    apply absent ((gs.lookup_eraseGame a sid).trans ?_) (congrArg GamePc.processing hl)
    rw [hn, ite_self]
  | updateGames order hl hnodup ho =>
    apply absent ?_ rfl
    apply (gs.lookup_processGameUpdates inst _ order hnodup ho sid).trans
    rw [hn, Option.map_none]
  | _ => exact absent hn rfl

theorem LoopStep.mutes (h : LoopStep cfg inst timestep gs evs gs') (hs : BatchTail gs)
    (hm : .completing sid r ∈ evs) : Muted sid gs' := by
  cases h with
  | @rejectData data _ _ _ _ _ cid hl hn hv hc =>
    cases List.mem_singleton.1 hm
    obtain ⟨done, hd⟩ := hs _ _ hl
    refine .inr ⟨hn, fun t' todo' he => ?_⟩
    cases he
    refine ⟨done ++ [.connection cid data], ?_, cid, data, ?_, rfl⟩
    · exact hd.trans (List.append_assoc _ [_] _).symm
    · exact List.mem_append_right _ (List.mem_singleton.2 rfl)
  | endGame a hl ha hg hdone hc => exact .inl rfl
  | _ => simp only [List.mem_cons, reduceCtorEq, List.not_mem_nil, or_false] at hm

theorem LoopStep.silent (h : LoopStep cfg inst timestep gs evs gs') (hs : LifeCycle gs)
    (hm : Muted cid.session gs) : .sending cid msg ∉ evs := by
  intro hsend
  obtain ⟨ha, hg⟩ := h.sends hs hsend
  rcases hm with hm | ⟨hn, -⟩
  · rw [(GamePc.afterErasure_sends ha).1] at hm
    cases hm
  · exact hg hn

def Gone (sid : T.SessionId) (gs : GameServer T G Worker) : Prop :=
  gs.Ended sid ∨ gs.games.lookup sid = none

theorem LoopStep.gone (h : LoopStep cfg inst timestep gs evs gs') (hg : Gone sid gs)
    (hstart : gs.games.lookup sid = none → gs'.games.lookup sid = none) : Gone sid gs' := by
  rcases hg with he | hn
  · by_cases herase : Erases gs gs' sid
    · exact .inr (h.erases herase)
    · exact .inl (h.ended he herase)
  · exact .inr (hstart hn)

theorem LoopStep.gone_silent (h : LoopStep cfg inst timestep gs evs gs') (hs : LifeCycle gs)
    (hg : Gone cid.session gs) : .sending cid msg ∉ evs := by
  intro hsend
  obtain ⟨ha, hgame⟩ := h.sends hs hsend
  rcases hg with (hf | he) | hn
  · rw [hs.erased ha] at hf
    cases hf
  · rw [(GamePc.afterErasure_sends ha).2] at he
    cases he
  · exact hgame hn

end Local

section Run

variable {T : Traits} {G Worker : Type} [DecidableEq Worker] {cfg : Config T}
  {P : GameInstance T G → Prop} {timestep : Int} {gs gs' : GameServer T G Worker}
  {sid : T.SessionId}

/-- What a step shows, with the messages that each session's output vector gained from a connect
or a disconnect and from an update. -/
structure Output (T : Traits) where
  evs : List (Event T)
  connected : T.SessionId → List (Message T)
  added : T.SessionId → List (Message T)

/-- The messages of the calls of `send_message` for the session. -/
def Output.sent (l : Output T) (sid : T.SessionId) : List (Message T) :=
  l.evs.filterMap (Event.sentMessage sid)

/-- The game server without `stop`, with any instances that append to the output vectors. -/
def outputServer (cfg : Config T) (timestep : Int) :
    LTS (GameServer T G Worker) (Output T) where
  init gs := ∃ lastUpdate, gs = .start lastUpdate
  step gs l gs' := (varyingServer cfg GameInstance.Appends timestep).step gs l.evs gs' ∧
    l.connected = gs.connected gs' ∧ l.added = gs.added gs'

def WithinTick (gs : GameServer T G Worker) (_ : Output T) (gs' : GameServer T G Worker) : Prop :=
  ¬ BeginsTick gs gs'

/-- The step begins no new tick, and starts a game only for the first connect of its session in
the batch. -/
def FirstWithinTick (gs : GameServer T G Worker) (l : Output T) (gs' : GameServer T G Worker) :
    Prop :=
  WithinTick gs l gs' ∧ StartsFirst gs gs'

theorem output_reachable (h : (outputServer cfg timestep).Reachable gs) :
    (varyingServer cfg GameInstance.Appends timestep).Reachable gs := by
  induction h with
  | init h0 => exact .init h0
  | step hr hs ih => exact ih.step hs.1

theorem output_cases (h : (outputServer cfg timestep).step gs l gs') :
    (∃ inst, inst.Appends ∧ LoopStep cfg inst timestep gs l.evs gs') ∨
      (Outside gs gs' ∧ ∀ e ∈ l.evs, e.called = false) := by
  obtain ⟨⟨hn, inst, ha, h⟩, -⟩ := h
  exact (h.outside hn).imp_left fun h => ⟨inst, ha, h⟩

theorem drained_invariant : (varyingServer cfg P timestep).Invariant
    fun gs : GameServer T G Worker => Drained gs where
  init := by
    intro gs hinit
    obtain ⟨t, rfl⟩ := hinit
    exact fun _ _ _ => rfl
  step _ hs h := by
    obtain ⟨hn, inst, -, h⟩ := h
    rcases h.outside hn with h | ⟨ho, -⟩
    · exact h.drained hs
    · simpa only [Drained, GameServer.outOf, ho.loop, ho.outMessages] using hs

theorem batchTail_invariant : (varyingServer cfg P timestep).Invariant
    fun gs : GameServer T G Worker => BatchTail gs where
  init := by
    intro gs hinit
    obtain ⟨t, rfl⟩ := hinit
    exact nofun
  step _ hs h := by
    obtain ⟨hn, inst, -, h⟩ := h
    rcases h.outside hn with h | ⟨ho, -⟩
    · exact h.batchTail hs
    · simpa only [BatchTail, ho.loop, ho.batch] using hs

theorem sent_uncalled {evs : List (Event T)} (h : ∀ e ∈ evs, e.called = false) :
    evs.filterMap (Event.sentMessage sid) = [] := by
  rw [List.filterMap_eq_nil_iff]
  intro e he
  have hcalled := h e he
  cases e with
  | sending id msg => cases hcalled
  | _ => rfl

theorem output_forwards (h : (outputServer cfg timestep).step gs l gs')
    (hb : ¬ BeginsTick gs gs')
    (hk : gs.loop.beforeErasure = true → sid ∉ gs.finishedGames) :
    l.sent sid ++ gs'.remaining sid = gs.remaining sid ++ l.connected sid ++ l.added sid := by
  rw [h.2.1, h.2.2]
  rcases output_cases h with ⟨inst, ha, h⟩ | ⟨ho, hcalled⟩
  · apply h.forwards ha hb
    rintro ⟨⟨t, hl⟩, hf⟩
    exact hk (by rw [hl]; rfl) (hf ▸ List.mem_cons_self)
  · have hout : gs'.outOf = gs.outOf := by
      funext a
      rw [GameServer.outOf, ho.outMessages, GameServer.outOf]
    have hremaining : gs'.remaining sid = gs.remaining sid := by
      rw [GameServer.remaining, ho.loop, hout, GameServer.remaining]
    rw [Output.sent, sent_uncalled hcalled, hremaining, GameServer.connected, GameServer.added,
      appended_same (congrFun hout sid)]
    simp only [ite_self, List.nil_append, List.append_nil]

theorem output_begins (h : (outputServer cfg timestep).step gs l gs') (hb : BeginsTick gs gs') :
    gs'.remaining sid = gs.outOf sid := by
  rcases output_cases h with ⟨inst, -, h⟩ | ⟨ho, -⟩
  · exact h.begins hb
  · obtain ⟨⟨t, hl⟩, hp⟩ := hb
    rw [ho.loop, hl] at hp
    cases hp

theorem output_processes (h : (outputServer cfg timestep).step gs l gs')
    (hb : ¬ BeginsTick gs gs') (hp : gs'.loop.beforeErasure = true) :
    gs.loop.beforeErasure = true ∧ gs'.finishedGames ⊆ gs.finishedGames ∧
      (gs'.loop.processing = true → gs.loop.processing = true) := by
  rcases output_cases h with ⟨inst, -, h⟩ | ⟨ho, -⟩
  · exact (h.processes hp).resolve_left hb
  · rw [ho.loop] at hp
    exact ⟨hp, ho.finishedGames ▸ List.Subset.refl _, ho.loop ▸ id⟩

theorem GamePc.processing_before {pc : GamePc T} (h : pc.processing = true) :
    pc.beforeErasure = true ∧ pc.updatingGames = false := by
  cases pc with
  | connecting t todo => exact ⟨rfl, rfl⟩
  | _ => cases h

theorem no_connects (sid : T.SessionId)
    (hrun : ((outputServer cfg timestep).restrict WithinTick).Run gs ls gs')
    (hp : gs.loop.processing = false) : ls.flatMap (·.connected sid) = [] := by
  induction hrun with
  | nil => rfl
  | @cons gs l gs₁ ls gs₂ hstep hrun ih =>
    obtain ⟨h, hb⟩ := hstep
    have hp₁ : gs₁.loop.processing = false := by
      apply Bool.eq_false_iff.2
      intro hp₁
      have hkept := (output_processes h hb (GamePc.processing_before hp₁).1).2.2 hp₁
      rw [hp] at hkept
      cases hkept
    rw [List.flatMap_cons, ih hp₁, h.2.1, GameServer.connected, hp]
    rfl

/-- Over a part of a tick: what was sent and remains to be sent is what remained before, then
what the connects and disconnects appended, then what the updates appended. -/
theorem tick_forwards (hrun : ((outputServer cfg timestep).restrict WithinTick).Run gs ls gs')
    (hk : gs.loop.beforeErasure = true → sid ∉ gs.finishedGames) :
    ls.flatMap (·.sent sid) ++ gs'.remaining sid =
      gs.remaining sid ++ ls.flatMap (·.connected sid) ++ ls.flatMap (·.added sid) := by
  induction hrun with
  | nil => simp only [List.flatMap_nil, List.nil_append, List.append_nil]
  | @cons gs l gs₁ ls gs₂ hstep hrun ih =>
    obtain ⟨h, hb⟩ := hstep
    have hone := output_forwards h hb hk
    have hrest := ih fun hp => by
      obtain ⟨hp, he, -⟩ := output_processes h hb hp
      exact fun hm => hk hp (he hm)
    have hsum : l.sent sid ++ (ls.flatMap (·.sent sid) ++ gs₂.remaining sid) =
        gs.remaining sid ++ l.connected sid ++ l.added sid ++ ls.flatMap (·.connected sid) ++
          ls.flatMap (·.added sid) := by
      rw [hrest, ← List.append_assoc, ← List.append_assoc, hone]
    -- No connect is handled in the tick once the games are updated.
    have horder : l.added sid ++ ls.flatMap (·.connected sid) =
        ls.flatMap (·.connected sid) ++ l.added sid := by
      cases hp : gs.loop.processing with
      | true =>
        rw [h.2.2, GameServer.added, (GamePc.processing_before hp).2]
        exact (List.append_nil _).symm
      | false =>
        have hnone := no_connects sid (.cons ⟨h, hb⟩ hrun) hp
        rw [List.flatMap_cons, List.append_eq_nil_iff] at hnone
        rw [hnone.2, List.nil_append, List.append_nil]
    simp only [List.flatMap_cons, List.append_assoc] at hsum ⊢
    rw [hsum, ← List.append_assoc (l.added sid), horder, List.append_assoc]

theorem Muted.run (hgs : (outputServer cfg timestep).Reachable gs) (hm : Muted sid gs)
    (hrun : ((outputServer cfg timestep).restrict FirstWithinTick).Run gs ls gs') :
    ∀ l ∈ ls, ∀ pid msg, .sending ⟨pid, sid⟩ msg ∉ l.evs := by
  induction hrun with
  | nil => exact List.forall_mem_nil _
  | @cons gs l gs₁ ls gs₂ hstep hrun ih =>
    obtain ⟨h, hb, hfirst⟩ := hstep
    have hs := lifeCycle_invariant.reachable (output_reachable hgs)
    refine List.forall_mem_cons.2 ⟨fun pid msg => ?_, ih (hgs.step h) ?_⟩
    · rcases output_cases h with ⟨inst, -, h⟩ | ⟨-, hcalled⟩
      · exact h.silent hs hm
      · exact fun hsend => nomatch hcalled _ hsend
    · rcases output_cases h with ⟨inst, -, h⟩ | ⟨ho, -⟩
      · exact h.muted hm hb hfirst
      · simpa only [Muted, ho.loop, ho.games, ho.batch] using hm

/-- The second event is no `send_message` for the session that the first one completes. -/
def NotSentAfter (e e' : Event T) : Prop :=
  ∀ sid r pid msg, e = .completing sid r → e' ≠ .sending ⟨pid, sid⟩ msg

omit [DecidableEq Worker] in
theorem LoopStep.evs_cases {inst : GameInstance T G}
    (h : LoopStep cfg inst timestep gs evs gs') : evs = [] ∨ ∃ e, evs = [e] := by
  cases h with
  | rejectData hl hn hv hc | sendMessage hl hc | endGame a hl ha hg hd hc => exact .inr ⟨_, rfl⟩
  | _ => exact .inl rfl

theorem output_pairwise (h : (outputServer cfg timestep).step gs l gs') :
    l.evs.Pairwise NotSentAfter := by
  rcases output_cases h with ⟨inst, -, h⟩ | ⟨-, hcalled⟩
  · rcases h.evs_cases with he | ⟨e, he⟩
    · exact he ▸ .nil
    · exact he ▸ List.pairwise_singleton _ _
  · apply List.Pairwise.imp_of_mem (R := fun _ _ => True) ?_ (List.pairwise_of_forall ?_)
    · intro e e' he _ _ sid r pid msg hc
      subst hc
      cases hcalled _ he
    · exact fun _ _ => trivial

theorem tick_precedes (hgs : (outputServer cfg timestep).Reachable gs)
    (hrun : ((outputServer cfg timestep).restrict FirstWithinTick).Run gs ls gs') :
    (ls.flatMap (·.evs)).Pairwise NotSentAfter := by
  induction hrun with
  | nil => exact .nil
  | @cons gs l gs₁ ls gs₂ hstep hrun ih =>
    obtain ⟨h, hb⟩ := hstep
    have hgs₁ := hgs.step h
    rw [List.flatMap_cons]
    apply List.pairwise_append.2 ⟨output_pairwise h, ih hgs₁, ?_⟩
    rintro e he e' he' sid r pid msg rfl rfl
    obtain ⟨l', hl', hsend⟩ := List.mem_flatMap.1 he'
    rcases output_cases h with ⟨inst, -, h⟩ | ⟨-, hcalled⟩
    · have hbatch := batchTail_invariant.reachable (output_reachable hgs)
      exact (h.mutes hbatch he).run hgs₁ hrun l' hl' pid msg hsend
    · cases hcalled _ he

def NotStarting (sid : T.SessionId) (gs : GameServer T G Worker) (_ : Output T)
    (gs' : GameServer T G Worker) : Prop :=
  gs.games.lookup sid = none → gs'.games.lookup sid = none

theorem Gone.run (hgs : (outputServer cfg timestep).Reachable gs) (hg : Gone sid gs)
    (hrun : ((outputServer cfg timestep).restrict (NotStarting sid)).Run gs ls gs') :
    ∀ l ∈ ls, ∀ pid msg, .sending ⟨pid, sid⟩ msg ∉ l.evs := by
  induction hrun with
  | nil => exact List.forall_mem_nil _
  | @cons gs l gs₁ ls gs₂ hstep hrun ih =>
    obtain ⟨h, hstart⟩ := hstep
    have hs := lifeCycle_invariant.reachable (output_reachable hgs)
    refine List.forall_mem_cons.2 ⟨fun pid msg => ?_, ih (hgs.step h) ?_⟩
    · rcases output_cases h with ⟨inst, -, h⟩ | ⟨-, hcalled⟩
      · exact h.gone_silent hs hg
      · exact fun hsend => nomatch hcalled _ hsend
    · rcases output_cases h with ⟨inst, -, h⟩ | ⟨ho, -⟩
      · exact h.gone hg hstart
      · simpa only [Gone, GameServer.Ended, ho.finishedGames, ho.loop, ho.games] using hg

/-- Without `stop`, for all instances that append to the output vectors: whenever a tick has sent
its output, all output vectors are empty; and what it has sent for a session whose game it did
not erase is what the connects and disconnects of the tick appended and then what the updates
appended. As long as a game is started only by the first connect of its session in the batch,
nothing is sent for a session after it was completed in the tick. Once the `is_done` branch has
completed a session, nothing is sent for it until a game is started for it again. -/
theorem game_output_forwarded (hgs : (outputServer cfg timestep).Reachable gs) :
    (gs.loop.afterSending = true → ∀ sid, gs.outOf sid = []) ∧
    (∀ l gs₀, (outputServer cfg timestep).step gs l gs₀ → BeginsTick gs gs₀ →
      (∀ ls gs₁ sid, ((outputServer cfg timestep).restrict WithinTick).Run gs₀ ls gs₁ →
        gs₁.loop.afterSending = true → sid ∉ gs₀.finishedGames →
        ls.flatMap (·.sent sid) = ls.flatMap (·.connected sid) ++ ls.flatMap (·.added sid)) ∧
      ∀ ls gs₁, ((outputServer cfg timestep).restrict FirstWithinTick).Run gs₀ ls gs₁ →
        (ls.flatMap (·.evs)).Pairwise NotSentAfter) ∧
    ∀ l gs₀ sid, (outputServer cfg timestep).step gs l gs₀ → EndsGame gs gs₀ sid →
      ∀ ls gs₁, ((outputServer cfg timestep).restrict (NotStarting sid)).Run gs₀ ls gs₁ →
        ∀ l ∈ ls, ∀ pid msg, .sending ⟨pid, sid⟩ msg ∉ l.evs := by
  have hdrained := drained_invariant.reachable (output_reachable hgs)
  have hempty : gs.loop.afterSending = true → ∀ sid, gs.outOf sid = [] := by
    intro ha sid
    obtain ⟨hf, hu⟩ := GamePc.afterSending_empty ha
    apply hdrained hf sid
    rw [hu]
    exact Finset.notMem_empty sid
  refine ⟨hempty, fun l gs₀ hstep hbegin => ⟨fun ls gs₁ sid hrun ha hsid => ?_, fun ls gs₁ hrun =>
    tick_precedes (hgs.step hstep) hrun⟩, fun l gs₀ sid hstep hends ls gs₁ hrun => ?_⟩
  · have htick := tick_forwards hrun fun _ => hsid
    obtain ⟨⟨t, hl⟩, -⟩ := id hbegin
    have hnone : gs₀.remaining sid = [] := by
      rw [output_begins hstep hbegin, hempty (by rw [hl]; rfl)]
    rw [remaining_afterSending ha, hnone, List.append_nil, List.nil_append] at htick
    exact htick
  · have hs := lifeCycle_invariant.reachable (output_reachable hgs)
    apply Gone.run (hgs.step hstep) (.inl ?_) hrun
    rcases output_cases hstep with ⟨inst, -, h⟩ | ⟨ho, -⟩
    · obtain ⟨g, -, -, -, hdying⟩ := h.ends_game hends
      exact hdying.ended
    · obtain ⟨⟨todo, hl⟩, he⟩ := hends
      rw [ho.loop, hl] at he
      cases he

end Run

def echoGame : GameInstance natTraits Nat :=
  { natGame with connect g out pid := (g, out ++ [(pid, "hello")]) }

theorem echoGame_appends : echoGame.Appends where
  connect _ _ _ := List.prefix_append _ _
  disconnect _ _ _ := List.prefix_rfl
  update _ _ _ _ := List.prefix_rfl

section Echo

variable {gs gs' gs₀ : GameServer natTraits Nat Unit}

theorem echo_step (h : GameStep natConfig echoGame 0 gs evs gs') (hn : .stopping ∉ evs) :
    (outputServer natConfig 0).step gs ⟨evs, gs.connected gs', gs.added gs'⟩ gs' :=
  ⟨⟨hn, echoGame, echoGame_appends, h⟩, rfl, rfl⟩

theorem echo_reachable (hgs : (outputServer natConfig 0).Reachable gs)
    (h : GameStep natConfig echoGame 0 gs evs gs') (hn : .stopping ∉ evs) :
    (outputServer natConfig 0).Reachable gs' :=
  hgs.step (echo_step h hn)

theorem echo_start (_ : (outputServer natConfig 0).Reachable gs) :
    ((outputServer natConfig 0).restrict WithinTick).Run gs [] gs :=
  .nil

theorem echo_run (hrun : ((outputServer natConfig 0).restrict WithinTick).Run gs₀ ls gs)
    (h : GameStep natConfig echoGame 0 gs evs gs') (hn : .stopping ∉ evs)
    (hl : ∀ t, gs.loop ≠ .timing t) :
    ((outputServer natConfig 0).restrict WithinTick).Run gs₀
      (ls ++ [⟨evs, gs.connected gs', gs.added gs'⟩]) gs' :=
  hrun.snoc ⟨echo_step h hn, fun hb => hb.1.elim hl⟩

/-- Bob logs in and the tick sends him the greeting of the game, once. -/
theorem game_output_forwarded_greeting :
    ∃ (gs₀ gs₁ : GameServer natTraits Nat Unit) (ls : List (Output natTraits)),
      ((outputServer natConfig 0).restrict WithinTick).Run gs₀ ls gs₁ ∧
      gs₁.loop.afterSending = true ∧ ls.flatMap (·.sent 7) = [((2 : Nat), "hello")] := by
  have h0 : (outputServer natConfig 0).Reachable
      (GameServer.start 0 : GameServer natTraits Nat Unit) := .init ⟨0, rfl⟩
  have h1 := echo_reachable h0 (.run (.run rfl)) (by simp)
  have h2 := echo_reachable h1 (.transport (.onMessage (6 : Nat) "bob")) (by simp)
  have h3 := echo_reachable h2 (.worker () (.enter rfl) nofun) (by simp)
  have h4 := echo_reachable h3 (.worker () (.pop rfl) nofun) (by simp)
  have h5 := echo_reachable h4 (.worker () (.messageUnbound rfl rfl) nofun) (by simp)
  have h6 := echo_reachable h5 (.worker () (.openSession ⟨0, 0⟩ rfl rfl rfl) nofun) (by simp)
  have h7 := echo_reachable h6 (.worker () .setupConnectionId nofun) (by simp)
  have h8 := echo_reachable h7 (.worker () .handleOpen nofun) (by simp)
  have h9 := echo_reachable h8 (.loop rfl (.enter 0 rfl rfl)) (by simp)
  have h10 := echo_reachable h9 (.loop rfl (.noGames rfl rfl)) (by simp)
  have h11 := echo_reachable h10 (.loop rfl (.pass rfl nofun)) (by simp)
  have h12 := echo_reachable h11 (.loop rfl (.relock rfl)) (by simp)
  have h13 := echo_reachable h12 (.loop rfl (.swapUpdates rfl (by decide))) (by simp)
  have r1 := echo_run (echo_start h13) (.loop rfl (.createGame rfl rfl rfl)) (by simp) nofun
  have r2 := echo_run r1 (.loop rfl (.clearUpdates rfl)) (by simp) nofun
  have r3 := echo_run r2 (.loop rfl (.clearFinished rfl rfl)) (by simp) nofun
  have r4 := echo_run r3 (.loop rfl (.updateGames [(7 : Nat)] rfl (by decide) rfl)) (by simp) nofun
  have r5 := echo_run r4 (.loop rfl (.sendSession (7 : Nat) rfl (by decide))) (by simp) nofun
  have r6 := echo_run r5 (.loop rfl (.sendMessage rfl (.sendMessage _ _ rfl)))
    (by simp) nofun
  have r7 := echo_run r6 (.call nofun .pushMessage) (by simp) nofun
  have r8 := echo_run r7 (.loop rfl (.clearMessages rfl)) (by simp) nofun
  have r9 := echo_run r8 (.loop rfl (.sendDone rfl)) (by simp) nofun
  obtain ⟨-, htick, -⟩ := game_output_forwarded h12
  have hsent := (htick _ _ (echo_step (.loop rfl (.swapUpdates rfl (by decide))) (by simp))
    ⟨⟨_, rfl⟩, rfl⟩).1 _ _ (7 : Nat) r9 rfl List.not_mem_nil
  exact ⟨_, _, _, r9, rfl, hsent⟩

/-- Eve's data is invalid and Bob's is not, and both connects are in one batch: the tick greets
Bob after it has completed session 7. -/
theorem message_follows_rejection :
    ∃ (gs gs₀ gs₁ : GameServer natTraits Nat Unit) (l : Output natTraits)
      (ls : List (Output natTraits)),
      (outputServer natConfig 0).Reachable gs ∧ (outputServer natConfig 0).step gs l gs₀ ∧
      BeginsTick gs gs₀ ∧ ((outputServer natConfig 0).restrict WithinTick).Run gs₀ ls gs₁ ∧
      ¬ (ls.flatMap (·.evs)).Pairwise NotSentAfter := by
  have h0 : (outputServer natConfig 0).Reachable
      (GameServer.start 0 : GameServer natTraits Nat Unit) := .init ⟨0, rfl⟩
  have h1 := echo_reachable h0 (.run (.run rfl)) (by simp)
  have h2 := echo_reachable h1 (.transport (.onMessage (5 : Nat) "eve")) (by simp)
  have h3 := echo_reachable h2 (.transport (.onMessage (6 : Nat) "bob")) (by simp)
  have h4 := echo_reachable h3 (.worker () (.enter rfl) nofun) (by simp)
  have h5 := echo_reachable h4 (.worker () (.pop rfl) nofun) (by simp)
  have h6 := echo_reachable h5 (.worker () (.messageUnbound rfl rfl) nofun) (by simp)
  have h7 := echo_reachable h6 (.worker () (.openSession ⟨0, 0⟩ rfl rfl rfl) nofun) (by simp)
  have h8 := echo_reachable h7 (.worker () .setupConnectionId nofun) (by simp)
  have h9 := echo_reachable h8 (.worker () .handleOpen nofun) (by simp)
  have h10 := echo_reachable h9 (.worker () (.enter rfl) nofun) (by simp)
  have h11 := echo_reachable h10 (.worker () (.pop rfl) nofun) (by simp)
  have h12 := echo_reachable h11 (.worker () (.messageUnbound rfl rfl) nofun) (by simp)
  have h13 := echo_reachable h12 (.worker () (.openSession ⟨0, 0⟩ rfl rfl rfl) nofun) (by simp)
  have h14 := echo_reachable h13 (.worker () .setupConnectionId nofun) (by simp)
  have h15 := echo_reachable h14 (.worker () .handleOpen nofun) (by simp)
  have h16 := echo_reachable h15 (.loop rfl (.enter 0 rfl rfl)) (by simp)
  have h17 := echo_reachable h16 (.loop rfl (.noGames rfl rfl)) (by simp)
  have h18 := echo_reachable h17 (.loop rfl (.pass rfl nofun)) (by simp)
  have h19 := echo_reachable h18 (.loop rfl (.relock rfl)) (by simp)
  have h20 := echo_reachable h19 (.loop rfl (.swapUpdates rfl (by decide))) (by simp)
  have r1 := echo_run (echo_start h20)
    (.loop rfl (.rejectData rfl rfl rfl (.completeSession ⟨0, 0⟩ _ _ rfl rfl))) (by simp) nofun
  have r2 := echo_run r1 (.call nofun (.findPlayer (3 : Nat) (by decide) rfl)) (by simp) nofun
  have r3 := echo_run r2 (.call nofun .closePlayer) (by simp) nofun
  have r4 := echo_run r3 (.call nofun (.findPlayer (2 : Nat) (by decide) rfl)) (by simp) nofun
  have r5 := echo_run r4 (.call nofun .closePlayer) (by simp) nofun
  have r6 := echo_run r5 (.call nofun .lockSession) (by simp) nofun
  have r7 := echo_run r6 (.loop rfl (.createGame rfl rfl rfl)) (by simp) nofun
  have r8 := echo_run r7 (.loop rfl (.clearUpdates rfl)) (by simp) nofun
  have r9 := echo_run r8 (.loop rfl (.clearFinished rfl rfl)) (by simp) nofun
  have r10 := echo_run r9 (.loop rfl (.updateGames [(7 : Nat)] rfl (by decide) rfl)) (by simp)
    nofun
  have r11 := echo_run r10 (.loop rfl (.sendSession (7 : Nat) rfl (by decide))) (by simp) nofun
  have r12 := echo_run r11 (.loop rfl (.sendMessage rfl (.sendMessage _ _ rfl)))
    (by simp) nofun
  refine ⟨_, _, _, _, _, h19, echo_step (.loop rfl (.swapUpdates rfl (by decide))) (by simp),
    ⟨⟨_, rfl⟩, rfl⟩, r12, fun hp => ?_⟩
  have hpair := List.pairwise_iff_getElem.1 hp 0 3 (by decide) (by decide) (by decide)
  exact hpair _ _ _ _ rfl rfl

end Echo

end WebGameServer
