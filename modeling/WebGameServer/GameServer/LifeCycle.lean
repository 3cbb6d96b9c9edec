import WebGameServer.GameServer.Completed

namespace WebGameServer
set_option autoImplicit true

section Local

variable {T : Traits} {G Worker : Type} {cfg : Config T} {inst : GameInstance T G}
  {timestep : Int} {gs gs' : GameServer T G Worker} {sid : T.SessionId}
  {sids pre post : List T.SessionId}

/-- The sessions whose games the search for ended games has not passed yet. -/
def GamePc.unfinished : GamePc T → Finset T.SessionId
  | .finishing todo => todo
  | .ending sid todo => insert sid todo
  | _ => ∅

def GamePc.unsent : GamePc T → Finset T.SessionId
  | .sending todo => todo
  | .sendingTo sid _ todo => insert sid todo
  | _ => ∅

structure LifeCycle (gs : GameServer T G Worker) : Prop where
  keys : gs.outMessages.keys = gs.games.keys
  count : gs.gameCount = gs.games.keys.card
  nodup : gs.finishedGames.Nodup
  finished : ∀ sid ∈ gs.finishedGames, sid ∈ gs.games.keys
  unfinished : ∀ sid ∈ gs.loop.unfinished, sid ∈ gs.games.keys ∧ sid ∉ gs.finishedGames
  once : ∀ sid todo, gs.loop = .ending sid todo → sid ∉ todo
  unsent : gs.loop.unsent ⊆ gs.games.keys
  erased : gs.loop.afterErasure = true → gs.finishedGames = []

theorem LifeCycle.advance (h : LifeCycle gs) (hgames : gs'.games.keys = gs.games.keys)
    (hout : gs'.outMessages.keys = gs.outMessages.keys) (hcount : gs'.gameCount = gs.gameCount)
    (hfinished : gs'.finishedGames = gs.finishedGames)
    (hunfinished : gs'.loop.unfinished ⊆ gs.loop.unfinished)
    (honce : ∀ sid todo, gs'.loop = .ending sid todo → sid ∉ todo)
    (hunsent : gs'.loop.unsent ⊆ gs.games.keys)
    (herased : gs'.loop.afterErasure = true → gs.finishedGames = []) : LifeCycle gs' where
  keys := by rw [hout, hgames, h.keys]
  count := by rw [hcount, hgames, h.count]
  nodup := by
    rw [hfinished]
    exact h.nodup
  finished := by
    rw [hfinished, hgames]
    exact h.finished
  unfinished sid hm := by
    rw [hfinished, hgames]
    exact h.unfinished sid (hunfinished hm)
  once := honce
  unsent := by
    rw [hgames]
    exact hunsent
  erased := by
    rw [hfinished]
    exact herased

theorem LifeCycle.has_output (h : LifeCycle gs) (hg : gs.games.lookup sid = some g) :
    ∃ out, gs.outMessages.lookup sid = some out := by
  rw [← Map.mem_keys_iff, h.keys, Map.mem_keys_iff]
  exact ⟨g, hg⟩

theorem store_keys (hg : gs.games.lookup sid = some g)
    (hk : gs.outMessages.keys = gs.games.keys) (calls : List (GameCall T))
    (r : G × List (Message T)) :
    (gs.store sid calls r).games.keys = gs.games.keys ∧
      (gs.store sid calls r).outMessages.keys = gs.outMessages.keys := by
  have hm : sid ∈ gs.games.keys := (Map.mem_keys_iff _).2 ⟨g, hg⟩
  exact ⟨Map.keys_insert_present _ hm _, Map.keys_insert_present _ (hk ▸ hm) _⟩

theorem foldl_updateGame_keys (hk : gs.outMessages.keys = gs.games.keys)
    (deltaTime : Int) (order : List T.SessionId) :
    (order.foldl (GameServer.updateGame inst deltaTime) gs).games.keys = gs.games.keys ∧
      (order.foldl (GameServer.updateGame inst deltaTime) gs).outMessages.keys =
        gs.outMessages.keys := by
  induction order generalizing gs with
  | nil => exact ⟨rfl, rfl⟩
  | cons sid order ih =>
    rw [List.foldl_cons]
    cases hg : gs.games.lookup sid with
    | none =>
      have he : gs.updateGame inst deltaTime sid = gs := by
        simp only [GameServer.updateGame, hg]
      rw [he]
      exact ih hk
    | some g =>
      have he : gs.updateGame inst deltaTime sid =
          gs.store sid (g.calls ++ [.update ((gs.inMessages.2.lookup sid).getD []) deltaTime])
            (inst.update g.game (gs.outOf sid) ((gs.inMessages.2.lookup sid).getD [])
              deltaTime) := by
        simp only [GameServer.updateGame, hg]
      rw [he]
      obtain ⟨hgames, hout⟩ := store_keys hg hk
        (g.calls ++ [.update ((gs.inMessages.2.lookup sid).getD []) deltaTime])
        (inst.update g.game (gs.outOf sid) ((gs.inMessages.2.lookup sid).getD []) deltaTime)
      obtain ⟨hgames', hout'⟩ := ih (by rw [hout, hgames, hk])
      exact ⟨hgames'.trans hgames, hout'.trans hout⟩

theorem processGameUpdates_keys (hk : gs.outMessages.keys = gs.games.keys) (deltaTime : Int)
    (order : List T.SessionId) :
    (gs.processGameUpdates inst deltaTime order).games.keys = gs.games.keys ∧
      (gs.processGameUpdates inst deltaTime order).outMessages.keys = gs.outMessages.keys := by
  have hswap : gs.swapMessages.outMessages.keys = gs.swapMessages.games.keys := hk
  exact foldl_updateGame_keys hswap deltaTime order

theorem eraseGame_keys (hm : sid ∈ gs.games.keys) (hk : gs.outMessages.keys = gs.games.keys)
    (hc : gs.gameCount = gs.games.keys.card) :
    (gs.eraseGame sid).outMessages.keys = (gs.eraseGame sid).games.keys ∧
      (gs.eraseGame sid).gameCount = (gs.eraseGame sid).games.keys.card ∧
      (gs.eraseGame sid).gameCount + 1 = gs.gameCount := by
  have hpos : 0 < gs.gameCount := hc ▸ Finset.card_pos.2 ⟨sid, hm⟩
  have hcard : (gs.games.keys.erase sid).card + 1 = gs.games.keys.card :=
    Finset.card_erase_add_one hm
  simp only [GameServer.eraseGame, Finmap.keys_erase, hk, sizeDecrement_pos hpos, true_and]
  omega

theorem foldl_eraseGame_keys (hn : sids.Nodup) (hs : ∀ sid ∈ sids, sid ∈ gs.games.keys)
    (hk : gs.outMessages.keys = gs.games.keys) (hc : gs.gameCount = gs.games.keys.card) :
    (sids.foldl GameServer.eraseGame gs).outMessages.keys =
        (sids.foldl GameServer.eraseGame gs).games.keys ∧
      (sids.foldl GameServer.eraseGame gs).gameCount =
        (sids.foldl GameServer.eraseGame gs).games.keys.card ∧
      (sids.foldl GameServer.eraseGame gs).gameCount + sids.length = gs.gameCount := by
  induction sids generalizing gs with
  | nil => exact ⟨hk, hc, rfl⟩
  | cons sid sids ih =>
    obtain ⟨hsid, hn⟩ := List.nodup_cons.1 hn
    obtain ⟨hm, hs⟩ := List.forall_mem_cons.1 hs
    obtain ⟨hk', hc', hcount⟩ := eraseGame_keys hm hk hc
    have hs' : ∀ a ∈ sids, a ∈ (gs.eraseGame sid).games.keys := by
      intro a ha
      rw [GameServer.eraseGame, Finmap.keys_erase]
      exact Finset.mem_erase.2 ⟨fun he => hsid (he ▸ ha), hs a ha⟩
    obtain ⟨hk'', hc'', hcount'⟩ := ih hn hs' hk' hc'
    refine ⟨hk'', hc'', ?_⟩
    rw [List.foldl_cons, List.length_cons]
    omega

theorem LifeCycle.no_wrap (h : LifeCycle gs) (he : gs.finishedGames = pre ++ sid :: post) :
    0 < (pre.foldl GameServer.eraseGame gs).gameCount := by
  have hn := h.nodup
  have hs := h.finished
  rw [he] at hn hs
  have hall := (foldl_eraseGame_keys hn hs h.keys h.count).2.2
  have hpre := (foldl_eraseGame_keys (List.nodup_append.1 hn).1
    (fun a ha => hs a (List.mem_append_left _ ha)) h.keys h.count).2.2
  rw [List.length_append, List.length_cons] at hall
  omega

theorem LifeCycle.createGame (h : LifeCycle gs)
    (hn : gs.games.lookup cid.session = none) (game : G) :
    LifeCycle { (gs.createGame cid.session game).connectPlayer inst ⟨game, []⟩ cid with
      loop := .connecting t todo } := by
  have hg : (gs.createGame cid.session game).games.lookup cid.session = some ⟨game, []⟩ := by
    rw [GameServer.createGame, Map.lookup_insert_ite, if_pos rfl]
  have hkeys : (gs.createGame cid.session game).games.keys = insert cid.session gs.games.keys :=
    Map.keys_insert _ _ _
  have hout : (gs.createGame cid.session game).outMessages.keys =
      (gs.createGame cid.session game).games.keys := by
    rw [hkeys, ← h.keys]
    exact Map.keys_emplace _ _ _
  obtain ⟨hgames', hout'⟩ := store_keys hg hout [.connect cid.player]
    (inst.connect game ((gs.createGame cid.session game).outOf cid.session) cid.player)
  constructor
  · exact hout'.trans (hout.trans hgames'.symm)
  · have hcard := Finset.card_insert_of_notMem ((Map.notMem_keys_iff gs.games).2 hn)
    have hcount := h.count
    apply Eq.trans ?_ (congrArg Finset.card (hgames'.trans hkeys)).symm
    simp only [GameServer.connectPlayer, GameServer.store, GameServer.createGame]
    omega
  · exact h.nodup
  · intro sid hm
    exact hgames'.trans hkeys ▸ Finset.mem_insert_of_mem (h.finished sid hm)
  · exact fun sid hm => (Finset.notMem_empty sid hm).elim
  · intro _ _ he
    cases he
  · exact Finset.empty_subset _
  · intro he
    cases he

theorem LifeCycle.eraseFinished (h : LifeCycle gs) (hl : gs.loop = .erasing t)
    (hf : gs.finishedGames = a :: rest) :
    LifeCycle { gs.eraseGame a with finishedGames := rest } := by
  have hn := h.nodup
  have hs := h.finished
  rw [hf] at hn hs
  obtain ⟨ha, hn⟩ := List.nodup_cons.1 hn
  obtain ⟨hm, hs⟩ := List.forall_mem_cons.1 hs
  obtain ⟨hk, hc, -⟩ := eraseGame_keys hm h.keys h.count
  constructor
  · exact hk
  · exact hc
  · exact hn
  · intro sid hsid
    simp only [GameServer.eraseGame, Finmap.keys_erase]
    exact Finset.mem_erase.2 ⟨fun he => ha (he ▸ hsid), hs sid hsid⟩
  · intro sid hsid
    have he : sid ∈ gs.loop.unfinished := hsid
    rw [hl] at he
    exact (Finset.notMem_empty sid he).elim
  · exact h.once
  · have he : gs.loop.unsent = ∅ := by rw [hl]; rfl
    simp only [GameServer.eraseGame, he]
    exact Finset.empty_subset _
  · intro hafter
    have he : gs.loop.afterErasure = true := hafter
    rw [hl] at he
    cases he

theorem LifeCycle.pushFinished (h : LifeCycle gs) (hl : gs.loop = .ending sid todo) :
    LifeCycle { gs with
      finishedGames := gs.finishedGames ++ [sid]
      loop := .finishing todo } := by
  have hunfinished := h.unfinished
  rw [hl] at hunfinished
  obtain ⟨hk, hn⟩ := hunfinished sid (Finset.mem_insert_self sid todo)
  constructor
  · exact h.keys
  · exact h.count
  · exact List.nodup_append.2 ⟨h.nodup, List.nodup_singleton sid,
      fun a ha b hb he => hn (List.mem_singleton.1 hb ▸ he ▸ ha)⟩
  · intro a ha
    rcases List.mem_append.1 ha with ha | ha
    · exact h.finished a ha
    · exact List.mem_singleton.1 ha ▸ hk
  · intro a ha
    obtain ⟨hk', hn'⟩ := hunfinished a (Finset.mem_insert_of_mem ha)
    refine ⟨hk', fun hm => ?_⟩
    rcases List.mem_append.1 hm with hm | hm
    · exact hn' hm
    · exact h.once sid todo hl (List.mem_singleton.1 hm ▸ ha)
  · exact nofun
  · exact Finset.empty_subset _
  · exact nofun

theorem LoopStep.lifeCycle (h : LoopStep cfg inst timestep gs evs gs') (hs : LifeCycle gs) :
    LifeCycle gs' := by
  cases h with
  | enter t hl hr | exit hl hr | lock hl hg | noGames hl hg | wait hl hu | pass hl hu
  | wakeStopped hl hr | wake hl hr hu | recheck hl hr hu | relock hl | sleep hl ht
  | swapUpdates hl ht | disconnectIgnored hl hg | rejectData hl hn hv hc | clearUpdates hl
  | finish hl =>
    exact hs.advance rfl rfl rfl rfl (Finset.empty_subset _) nofun (Finset.empty_subset _) nofun
  | disconnectPlayer hl hg | connectPlayer hl hg =>
    have hm := (Map.mem_keys_iff _).2 ⟨_, hg⟩
    exact hs.advance (Map.keys_insert_present _ hm _)
      (Map.keys_insert_present _ (hs.keys ▸ hm) _) rfl rfl (Finset.empty_subset _) nofun
      (Finset.empty_subset _) nofun
  | createGame hl hn hv => exact hs.createGame hn _
  | eraseFinished hl hf => exact hs.eraseFinished hl hf
  | clearFinished hl hf =>
    exact hs.advance rfl rfl rfl rfl (Finset.empty_subset _) nofun (Finset.empty_subset _)
      fun _ => hf
  | @updateGames _ t order hl hn ho =>
    obtain ⟨hgames, hout⟩ :
        (gs.processGameUpdates inst t order).games.keys = gs.games.keys ∧
          (gs.processGameUpdates inst t order).outMessages.keys = gs.outMessages.keys :=
      processGameUpdates_keys hs.keys t order
    have he := gs.processGameUpdates_eq inst t order
    refine hs.advance hgames hout (by rw [he]) (by rw [he]) (Finset.empty_subset _) nofun ?_ ?_
    · exact (hout.trans hs.keys).subset
    · exact fun _ => hs.erased (by rw [hl]; rfl)
  | sendSession sid hl hm =>
    have hunsent := hs.unsent
    rw [hl] at hunsent
    refine hs.advance rfl rfl rfl rfl (Finset.empty_subset _) nofun ?_
      fun _ => hs.erased (by rw [hl]; rfl)
    rw [GamePc.unsent, Finset.insert_erase hm]
    exact hunsent
  | sendMessage hl hc =>
    have hunsent := hs.unsent
    rw [hl] at hunsent
    exact hs.advance rfl rfl rfl rfl (Finset.empty_subset _) nofun hunsent
      fun _ => hs.erased (by rw [hl]; rfl)
  | @clearMessages sid todo _ hl =>
    have hunsent := hs.unsent
    rw [hl] at hunsent
    obtain ⟨hsid, htodo⟩ := Finset.insert_subset_iff.1 hunsent
    exact hs.advance rfl (Map.keys_insert_present _ (hs.keys ▸ hsid) _) rfl rfl
      (Finset.empty_subset _) nofun htodo fun _ => hs.erased (by rw [hl]; rfl)
  | sendDone hl =>
    have hnone := hs.erased (by rw [hl]; rfl)
    refine ⟨hs.keys, hs.count, hs.nodup, hs.finished, fun sid hm => ⟨hm, ?_⟩, nofun,
      Finset.empty_subset _, nofun⟩
    rw [hnone]
    exact List.not_mem_nil
  | skipGame sid hl hm hg hd =>
    refine hs.advance rfl rfl rfl rfl ?_ nofun (Finset.empty_subset _) nofun
    rw [hl]
    exact Finset.erase_subset _ _
  | endGame sid hl hm hg hd hc =>
    refine hs.advance rfl rfl rfl rfl ?_ (fun sid' todo he => ?_) (Finset.empty_subset _) nofun
    · rw [hl]
      exact (Finset.insert_erase hm).subset
    · cases he
      exact Finset.notMem_erase _ _
  | pushFinished hl => exact hs.pushFinished hl

/-- The `is_done` branch for the session. -/
def EndsGame (gs gs' : GameServer T G Worker) (sid : T.SessionId) : Prop :=
  (∃ todo, gs.loop = .finishing todo) ∧ gs'.loop.ended = some sid

/-- The erasure of the game of the session, which ended in the last tick. -/
def Erases (gs gs' : GameServer T G Worker) (sid : T.SessionId) : Prop :=
  (∃ t, gs.loop = .erasing t) ∧ gs.finishedGames = sid :: gs'.finishedGames

/-- The session has ended, and since then only connects and disconnects reached its game. -/
structure Dying (sid : T.SessionId) (calls : List (GameCall T)) (gs : GameServer T G Worker) :
    Prop where
  game : ∃ g later, gs.games.lookup sid = some g ∧ g.calls = calls ++ later ∧
    ∀ msgs t, .update msgs t ∉ later
  ended : gs.Ended sid

theorem Dying.before (h : Dying sid calls gs) (hs : LifeCycle gs) :
    gs.loop.afterErasure = false := by
  rcases h.ended with he | he
  · cases ha : gs.loop.afterErasure with
    | false => rfl
    | true =>
      rw [hs.erased ha] at he
      cases he
  · cases hp : gs.loop with
    | ending sid todo => rfl
    | _ =>
      rw [hp] at he
      cases he

theorem Dying.advance (h : Dying sid calls gs)
    (hg : gs'.games.lookup sid = gs.games.lookup sid) (he : gs'.Ended sid) :
    Dying sid calls gs' where
  game := by
    rw [hg]
    exact h.game
  ended := he

theorem Dying.store {state : G} (h : Dying sid calls gs) (hg : gs.games.lookup a = some g)
    (hcall : ∀ msgs t, .update msgs t ∉ cs) (he : gs'.Ended sid)
    (hgames : gs'.games = gs.games.insert a ⟨state, g.calls ++ cs⟩) : Dying sid calls gs' where
  game := by
    obtain ⟨g', later, hg', hc, hl⟩ := h.game
    by_cases hs : sid = a
    · subst hs
      rw [hg] at hg'
      cases hg'
      refine ⟨_, later ++ cs, by rw [hgames, Finmap.lookup_insert], ?_, fun msgs t hm => ?_⟩
      · simp only [hc, List.append_assoc]
      · rcases List.mem_append.1 hm with hm | hm
        · exact hl msgs t hm
        · exact hcall msgs t hm
    · refine ⟨g', later, ?_, hc, hl⟩
      rw [hgames, Map.lookup_insert_ite, if_neg hs, hg']
  ended := he

theorem LoopStep.ended (h : LoopStep cfg inst timestep gs evs gs') (he : gs.Ended sid)
    (hn : ¬ Erases gs gs' sid) : gs'.Ended sid := by
  have finished (hl : gs.loop.ended = none) : sid ∈ gs.finishedGames := by
    apply he.resolve_right
    intro he
    rw [hl] at he
    cases he
  cases h with
  | eraseFinished hl hf =>
    have hm := finished (by rw [hl]; rfl)
    rw [hf] at hm
    rcases List.mem_cons.1 hm with rfl | hm
    · exact (hn ⟨⟨_, hl⟩, hf⟩).elim
    · exact .inl hm
  | updateGames order hl hnodup ho =>
    rw [GameServer.processGameUpdates_eq]
    exact .inl (finished (by rw [hl]; rfl))
  | @pushFinished _ a todo hl =>
    rcases he with he | he
    · exact .inl (List.mem_append_left _ he)
    · rw [hl] at he
      cases he
      exact .inl (List.mem_append_right _ (List.mem_singleton.2 rfl))
  | enter _ hl | exit hl | lock hl | noGames hl | wait hl | pass hl | wakeStopped hl | wake hl
  | recheck hl | relock hl | sleep hl | swapUpdates hl | disconnectPlayer hl
  | disconnectIgnored hl | connectPlayer hl | createGame hl | rejectData hl | clearUpdates hl
  | clearFinished hl | sendSession _ hl | sendMessage hl | clearMessages hl | sendDone hl | skipGame _ hl
  | endGame _ hl | finish hl => exact .inl (finished (by rw [hl]; rfl))

theorem LoopStep.dying (h : LoopStep cfg inst timestep gs evs gs') (hs : LifeCycle gs)
    (hd : Dying sid calls gs) (hn : ¬ Erases gs gs' sid) : Dying sid calls gs' := by
  have hbefore := hd.before hs
  have hended := h.ended hd.ended hn
  cases h with
  | enter t hl hr | exit hl hr | lock hl hg | noGames hl hg | wait hl hu | pass hl hu
  | wakeStopped hl hr | wake hl hr hu | recheck hl hr hu | relock hl | sleep hl ht
  | swapUpdates hl ht | disconnectIgnored hl hg | rejectData hl hn hv hc | clearUpdates hl
  | clearFinished hl hf | pushFinished hl | finish hl | skipGame a hl hm hg hdone | endGame a hl hm hg hdone hc =>
    exact hd.advance rfl hended
  | disconnectPlayer hl hg =>
    apply hd.store hg ?_ hended rfl
    intro msgs t hm
    cases List.mem_singleton.1 hm
  | connectPlayer hl hg =>
    apply hd.store hg ?_ hended rfl
    intro msgs t hm
    cases List.mem_singleton.1 hm
  | @createGame _ _ cid data _ hl hg hv =>
    apply hd.advance ?_ hended
    obtain ⟨g, -, hg', -⟩ := hd.game
    have hne : sid ≠ cid.session := by
      rintro rfl
      rw [hg] at hg'
      cases hg'
    simp only [GameServer.connectPlayer, GameServer.store, GameServer.createGame,
      Map.lookup_insert_ite, if_neg hne]
  | eraseFinished hl hf =>
    have hne : sid ≠ _ := fun he => hn ⟨⟨_, hl⟩, he ▸ hf⟩
    exact hd.advance ((gs.lookup_eraseGame _ sid).trans (if_neg hne)) hended
  | updateGames order hl hnodup ho | sendSession a hl hm | sendMessage hl hc | clearMessages hl
  | sendDone hl =>
    rw [hl] at hbefore
    cases hbefore

theorem LoopStep.completes_other (h : LoopStep cfg inst timestep gs evs gs') (hs : LifeCycle gs)
    (hd : Dying sid calls gs) : .completing sid r ∉ evs := by
  intro hm
  obtain ⟨g, -, hg', -⟩ := hd.game
  cases h with
  | rejectData hl hn hv hc =>
    cases List.mem_singleton.1 hm
    rw [hn] at hg'
    cases hg'
  | endGame a hl ha hg hdone hc =>
    cases List.mem_singleton.1 hm
    have hunfinished := hs.unfinished
    rw [hl] at hunfinished
    apply (hunfinished sid ha).2 (hd.ended.resolve_right fun he => ?_)
    rw [hl] at he
    cases he
  | _ => simp only [List.mem_cons, reduceCtorEq, List.not_mem_nil, or_false] at hm

theorem LoopStep.erases (h : LoopStep cfg inst timestep gs evs gs') (he : Erases gs gs' sid) :
    gs'.games.lookup sid = none := by
  obtain ⟨⟨t, hl⟩, hf⟩ := he
  cases h with
  | eraseFinished hl₀ hf₀ =>
    cases hf₀.symm.trans hf
    exact (gs.lookup_eraseGame sid sid).trans (if_pos rfl)
  | clearFinished hl₀ hf₀ => cases hf₀.symm.trans hf
  | enter _ h₀ | exit h₀ | lock h₀ | noGames h₀ | wait h₀ | pass h₀ | wakeStopped h₀ | wake h₀
  | recheck h₀ | relock h₀ | sleep h₀ | swapUpdates h₀ | disconnectPlayer h₀
  | disconnectIgnored h₀ | connectPlayer h₀ | createGame h₀ | rejectData h₀ | clearUpdates h₀
  | updateGames _ h₀ | sendSession _ h₀ | sendMessage h₀ | clearMessages h₀ | sendDone h₀
  | skipGame _ h₀ | endGame _ h₀ | pushFinished h₀ | finish h₀ =>
    rw [hl] at h₀
    cases h₀

theorem LoopStep.ends_game (h : LoopStep cfg inst timestep gs evs gs') (he : EndsGame gs gs' sid) :
    ∃ g, gs.games.lookup sid = some g ∧
      inst.isDone g.game = true ∧ evs = [.completing sid ⟨sid, inst.getState g.game⟩] ∧
      Dying sid g.calls gs' := by
  obtain ⟨⟨todo, hl⟩, he⟩ := he
  cases h with
  | endGame a hl₀ hm hg hd hc =>
    cases he
    exact ⟨_, hg, hd, rfl, ⟨_, [], hg, (List.append_nil _).symm, fun _ _ => List.not_mem_nil⟩,
      .inr rfl⟩
  | eraseFinished hl₀ => cases hl.symm.trans hl₀
  | _ => cases he

end Local

section Run

variable {T : Traits} {G Worker : Type} [DecidableEq Worker] {cfg : Config T}
  {P : GameInstance T G → Prop} {timestep : Int} {gs gs' : GameServer T G Worker}

/-- The game server without `stop`. At each step the game may answer as another instance with
the property `P`, so that `is_done` may change its answer from call to call. -/
def varyingServer (cfg : Config T) (P : GameInstance T G → Prop) (timestep : Int) :
    LTS (GameServer T G Worker) (List (Event T)) where
  init gs := ∃ lastUpdate, gs = .start lastUpdate
  step gs evs gs' := .stopping ∉ evs ∧ ∃ inst, P inst ∧ GameStep cfg inst timestep gs evs gs'

/-- A step of the workers, of the transport or inside a call of the base server. -/
structure Outside (gs gs' : GameServer T G Worker) : Prop where
  games : gs'.games = gs.games
  outMessages : gs'.outMessages = gs.outMessages
  gameCount : gs'.gameCount = gs.gameCount
  finishedGames : gs'.finishedGames = gs.finishedGames
  loop : gs'.loop = gs.loop
  batch : gs'.connectionUpdates.2 = gs.connectionUpdates.2

theorem GameStep.outside {inst : GameInstance T G} (h : GameStep cfg inst timestep gs evs gs')
    (hn : .stopping ∉ evs) :
    LoopStep cfg inst timestep gs evs gs' ∨
      (Outside gs gs' ∧ ∀ e ∈ evs, e.called = false) := by
  cases h with
  | transport h => exact .inr ⟨⟨rfl, rfl, rfl, rfl, rfl, rfl⟩, h.uncalled⟩
  | worker w h hfree =>
    refine .inr ⟨?_, h.uncalled⟩
    rw [GameServer.foldl_handle_eq]
    exact ⟨rfl, rfl, rfl, rfl, rfl, rfl⟩
  | loop hidle h => exact .inl h
  | call hbusy h => exact .inr ⟨⟨rfl, rfl, rfl, rfl, rfl, rfl⟩, h.busy_uncalled hbusy⟩
  | run h => exact .inr ⟨⟨rfl, rfl, rfl, rfl, rfl, rfl⟩, h.uncalled⟩
  | stop h => cases h <;> exact (hn List.mem_cons_self).elim

omit [DecidableEq Worker] in
theorem LifeCycle.outside (h : LifeCycle gs) (ho : Outside gs gs') : LifeCycle gs' := by
  apply h.advance (by rw [ho.games]) (by rw [ho.outMessages]) ho.gameCount ho.finishedGames
    (by rw [ho.loop]) ?_ (by rw [ho.loop]; exact h.unsent) (by rw [ho.loop]; exact h.erased)
  rw [ho.loop]
  exact h.once

theorem LifeCycle.step (hs : LifeCycle gs) (h : (varyingServer cfg P timestep).step gs evs gs') :
    LifeCycle gs' := by
  obtain ⟨hn, inst, -, h⟩ := h
  rcases h.outside hn with h | ⟨ho, -⟩
  · exact h.lifeCycle hs
  · exact hs.outside ho

theorem LifeCycle.run (hs : LifeCycle gs) (h : (varyingServer cfg P timestep).Run gs ls gs') :
    LifeCycle gs' := by
  induction h with
  | nil => exact hs
  | cons hstep hrun ih => exact ih (hs.step hstep)

theorem lifeCycle_invariant : (varyingServer cfg P timestep).Invariant
    fun gs : GameServer T G Worker => LifeCycle gs where
  init := by
    intro gs hinit
    obtain ⟨t, rfl⟩ := hinit
    exact ⟨rfl, rfl, .nil, List.forall_mem_nil _, fun sid hm => (Finset.notMem_empty sid hm).elim,
      nofun, Finset.empty_subset _, nofun⟩
  step _ hs h := hs.step h

/-- The step does not erase the game of the session. -/
def NotErasing (sid : T.SessionId) (gs : GameServer T G Worker) (_ : List (Event T))
    (gs' : GameServer T G Worker) : Prop :=
  ¬ Erases gs gs' sid

theorem Dying.run (hgs : (varyingServer cfg P timestep).Reachable gs)
    (hd : Dying sid calls gs)
    (hrun : ((varyingServer cfg P timestep).restrict (NotErasing sid)).Run gs ls gs') :
    Dying sid calls gs' ∧ ∀ evs ∈ ls, ∀ r, .completing sid r ∉ evs := by
  induction hrun with
  | nil => exact ⟨hd, List.forall_mem_nil _⟩
  | @cons gs evs gs₁ ls gs₂ hstep hrun ih =>
    obtain ⟨h, hnot⟩ := hstep
    have hs := lifeCycle_invariant.reachable hgs
    have hone : Dying sid calls gs₁ ∧ ∀ r, .completing sid r ∉ evs := by
      obtain ⟨hn, inst, -, hstep⟩ := h
      rcases hstep.outside hn with h | ⟨ho, hc⟩
      · exact ⟨h.dying hs hd hnot, fun r => h.completes_other hs hd⟩
      · refine ⟨hd.advance (by rw [ho.games]) ?_, fun r hm => nomatch hc _ hm⟩
        rw [GameServer.Ended, ho.finishedGames, ho.loop]
        exact hd.ended
    obtain ⟨hd', hls⟩ := ih (hgs.step h) hone.1
    exact ⟨hd', List.forall_mem_cons.2 ⟨hone.2, hls⟩⟩

/-- Without `stop`, whatever the instances answer: the two maps have the same keys, so that each
game has its output vector; the counter counts the games and the list of ended games holds
distinct games, so that no decrement wraps;
the `is_done` branch completes a game once, after which it is not updated any more and is erased
in the next tick. -/
theorem game_life_cycle (hgs : (varyingServer cfg (fun _ => True) timestep).Reachable gs) :
    (gs.outMessages.keys = gs.games.keys ∧ gs.gameCount = gs.games.keys.card ∧
      gs.finishedGames.Nodup ∧ ∀ sid ∈ gs.finishedGames, sid ∈ gs.games.keys) ∧
    (∀ sid g, gs.games.lookup sid = some g → ∃ out, gs.outMessages.lookup sid = some out) ∧
    (∀ pre sid post, gs.finishedGames = pre ++ sid :: post →
      0 < (pre.foldl GameServer.eraseGame gs).gameCount) ∧
    ∀ evs gs₁ sid, (varyingServer cfg (fun _ => True) timestep).step gs evs gs₁ →
      EndsGame gs gs₁ sid →
      (∃ r, evs = [.completing sid r]) ∧ ∃ g, gs.games.lookup sid = some g ∧
        ∀ ls gs₂,
          ((varyingServer cfg (fun _ => True) timestep).restrict (NotErasing sid)).Run gs₁ ls gs₂ →
          (∃ g₂ later, gs₂.games.lookup sid = some g₂ ∧ g₂.calls = g.calls ++ later ∧
            ∀ msgs t, .update msgs t ∉ later) ∧
          gs₂.loop.afterErasure = false ∧
          (∀ evs ∈ ls, ∀ r, .completing sid r ∉ evs) ∧
          ∀ evs gs₃, (varyingServer cfg (fun _ => True) timestep).step gs₂ evs gs₃ →
            Erases gs₂ gs₃ sid → gs₃.games.lookup sid = none := by
  have hs := lifeCycle_invariant.reachable hgs
  refine ⟨⟨hs.keys, hs.count, hs.nodup, hs.finished⟩, fun sid g => hs.has_output,
    fun pre sid post he => hs.no_wrap he, fun evs gs₁ sid hstep hends => ?_⟩
  have hgs₁ := hgs.step hstep
  obtain ⟨hn, inst, -, h⟩ := hstep
  have hloop : LoopStep cfg inst timestep gs evs gs₁ := by
    apply (h.outside hn).resolve_right
    intro ho
    obtain ⟨⟨todo, hl⟩, he⟩ := hends
    rw [ho.1.loop, hl] at he
    cases he
  obtain ⟨g, hg, -, he, hd⟩ := hloop.ends_game hends
  refine ⟨⟨_, he⟩, g, hg, fun ls gs₂ hrun => ?_⟩
  obtain ⟨hd₂, hls⟩ := hd.run hgs₁ hrun
  have hgs₂ := hgs₁.run hrun.of_restrict
  have hs₂ := lifeCycle_invariant.reachable hgs₂
  refine ⟨hd₂.game, hd₂.before hs₂, hls, fun evs gs₃ hstep herase => ?_⟩
  obtain ⟨hn, inst, -, h⟩ := hstep
  rcases h.outside hn with h | ⟨ho, -⟩
  · exact h.erases herase
  · exact (List.cons_ne_self _ _ (herase.2.symm.trans ho.finishedGames.symm)).elim

theorem varying_loop (inst : GameInstance T G)
    (hgs : (varyingServer cfg (fun _ => True) timestep).Reachable gs)
    (hidle : gs.base.caller () = .idle) (h : LoopStep cfg inst timestep gs [] gs') :
    (varyingServer cfg (fun _ => True) timestep).Reachable gs' :=
  hgs.step ⟨List.not_mem_nil, inst, trivial, .loop hidle h⟩

theorem not_erasing_cons (h : (varyingServer cfg P timestep).step gs evs gs')
    (hl : ∀ t, gs.loop ≠ .erasing t)
    (hrun : ((varyingServer cfg P timestep).restrict (NotErasing sid)).Run gs' ls gs₂) :
    ((varyingServer cfg P timestep).restrict (NotErasing sid)).Run gs (evs :: ls) gs₂ := by
  refine .cons ⟨h, ?_⟩ hrun
  rintro ⟨⟨t, ht⟩, -⟩
  exact hl t ht

end Run

/-- Zoe's game is over at once. When the next tick erases it, it has not been updated again. -/
theorem game_life_cycle_over :
    ∃ (gs gs' : GameServer natTraits Nat Unit) (g : Game natTraits Nat),
      gs.games.lookup 8 = some g ∧ g.calls = [.connect 4, .update [] 0] ∧
      gs.loop = .erasing 0 ∧ gs.finishedGames = [8] ∧ gs'.games.lookup 8 = none := by
  have h0 : (varyingServer natConfig (fun _ => True) 0).Reachable
      (GameServer.start 0 : GameServer natTraits Nat Unit) := .init ⟨0, rfl⟩
  have h1 := h0.step ⟨by simp, natGame, trivial, .run (.run rfl)⟩
  have h2 := h1.step ⟨by simp, natGame, trivial, .transport (.onMessage (5 : Nat) "zoe")⟩
  have h3 := h2.step ⟨by simp, natGame, trivial, .worker () (.enter rfl) nofun⟩
  have h4 := h3.step ⟨by simp, natGame, trivial, .worker () (.pop rfl) nofun⟩
  have h5 := h4.step ⟨by simp, natGame, trivial, .worker () (.messageUnbound rfl rfl) nofun⟩
  have h6 := h5.step
    ⟨by simp, natGame, trivial, .worker () (.openSession ⟨0, 0⟩ rfl rfl rfl) nofun⟩
  have h7 := h6.step ⟨by simp, natGame, trivial, .worker () .setupConnectionId nofun⟩
  have h8 := h7.step ⟨by simp, natGame, trivial, .worker () .handleOpen nofun⟩
  have h9 := varying_loop natGame h8 rfl (.enter 0 rfl rfl)
  have h10 := varying_loop natGame h9 rfl (.noGames rfl rfl)
  have h11 := varying_loop natGame h10 rfl (.pass rfl nofun)
  have h12 := varying_loop natGame h11 rfl (.relock rfl)
  have h13 := varying_loop natGame h12 rfl (.swapUpdates rfl (by decide))
  have h14 := varying_loop natGame h13 rfl (.createGame rfl rfl rfl)
  have h15 := varying_loop natGame h14 rfl (.clearUpdates rfl)
  have h16 := varying_loop natGame h15 rfl (.clearFinished rfl rfl)
  have h17 := varying_loop natGame h16 rfl (.updateGames [(8 : Nat)] rfl (by decide) rfl)
  have h18 := varying_loop natGame h17 rfl (.sendSession (8 : Nat) rfl (by decide))
  have h19 := varying_loop natGame h18 rfl (.clearMessages rfl)
  have h20 := varying_loop natGame h19 rfl (.sendDone rfl)
  obtain ⟨-, -, -, hends⟩ := game_life_cycle h20
  have hgames {m : Map Nat (Game natTraits Nat)} {g : Game natTraits Nat}
      (h : m.lookup 8 = some g) : m ≠ ∅ := by
    rintro rfl
    cases h
  obtain ⟨-, g, hg, hrun⟩ := hends _ _ (8 : Nat) ⟨by simp, { natGame with isDone := fun _ => true },
    trivial, .loop rfl (.endGame (8 : Nat) rfl (by decide) rfl rfl
      (.completeSession ⟨0, 0⟩ _ _ rfl rfl))⟩ ⟨⟨_, rfl⟩, rfl⟩
  have herased := hrun _ _
    (not_erasing_cons
      ⟨by simp, natGame, trivial, .call nofun (.findPlayer (4 : Nat) (by decide) rfl)⟩ nofun
    (not_erasing_cons ⟨by simp, natGame, trivial, .call nofun .closePlayer⟩ nofun
    (not_erasing_cons ⟨by simp, natGame, trivial, .call nofun .lockSession⟩ nofun
    (not_erasing_cons ⟨by simp, natGame, trivial, .loop rfl (.pushFinished rfl)⟩ nofun
    (not_erasing_cons ⟨by simp, natGame, trivial, .loop rfl (.finish rfl)⟩ nofun
    (not_erasing_cons ⟨by simp, natGame, trivial, .loop rfl (.enter 0 rfl rfl)⟩ nofun
    (not_erasing_cons ⟨by simp, natGame, trivial, .loop rfl (.lock rfl (hgames hg))⟩ nofun
    (not_erasing_cons ⟨by simp, natGame, trivial, .loop rfl (.swapUpdates rfl (by decide))⟩ nofun
    (not_erasing_cons ⟨by simp, natGame, trivial, .loop rfl (.clearUpdates rfl)⟩ nofun
      .nil)))))))))
  obtain ⟨⟨g₂, -, hg₂, -⟩, -, -, herased⟩ := herased
  have hnone := herased _ _ ⟨by simp, natGame, trivial, .loop rfl (.eraseFinished rfl rfl)⟩
    ⟨⟨0, rfl⟩, rfl⟩
  refine ⟨_, _, g₂, hg₂, ?_, rfl, rfl, hnone⟩
  have hgame : some (⟨0, [.connect 4, .update [] 0]⟩ : Game natTraits Nat) = some g₂ := hg₂
  cases hgame
  rfl

end WebGameServer
