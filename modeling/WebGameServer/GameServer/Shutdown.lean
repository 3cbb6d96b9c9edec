import WebGameServer.GameServer.Batches
import WebGameServer.GameServer.Output
import WebGameServer.GameServer.Waiting

namespace WebGameServer
set_option autoImplicit true

/-- `stop` has run its section under `m_game_list_lock`. -/
def GameStopPc.clearedGames : GameStopPc → Bool
  | .clearingMessages | .clearingUpdates | .clearingCount | .idle => true
  | _ => false

/-- `stop` has cleared `m_in_messages.first`. -/
def GameStopPc.clearedMessages : GameStopPc → Bool
  | .clearingUpdates | .clearingCount | .idle => true
  | _ => false

/-- `stop` has cleared `m_connection_updates.first`. -/
def GameStopPc.clearedUpdates : GameStopPc → Bool
  | .clearingCount | .idle => true
  | _ => false

/-- `stop` has reset `m_game_count`. -/
def GameStopPc.clearedCount : GameStopPc → Bool
  | .idle => true
  | _ => false

/-- A connect among the updates carries data of a valid game. -/
def Creates {T : Traits} {G : Type} (inst : GameInstance T G)
    (updates : List (ConnectionUpdate T)) : Prop :=
  ∃ cid data, .connection cid data ∈ updates ∧ inst.isValid (inst.construct data) = true

def GamePc.Idles {T : Traits} {G : Type} (inst : GameInstance T G) : GamePc T → Prop
  | .connecting _ todo => ¬ Creates inst todo
  | .sending todo | .finishing todo => todo = ∅
  | .sendingTo _ _ _ | .ending _ _ => False
  | _ => True

section Steps

variable {T : Traits} {G Worker : Type}

/-- With `m_is_running` cleared, no step puts anything into what `stop` has cleared. -/
structure LeavesEmpty (inst : GameInstance T G) (gs : GameServer T G Worker)
    (evs : List (Event T)) (gs' : GameServer T G Worker) : Prop where
  -- No worker calls `player_connect` or `player_disconnect`.
  updates : gs.base.server.isRunning = false → gs.stop.clearedUpdates = true →
    evs.filterMap Event.connectionUpdate = []
  -- No worker calls `process_message`.
  messages : gs.base.server.isRunning = false → gs.stop.clearedMessages = true →
    ∀ cid msg, .handleMessage cid msg ∉ evs
  -- No tick that begins creates a game.
  creates : gs.base.server.isRunning = false → gs.stop.clearedGames = true →
    BeginsTick gs gs' → ¬ Creates inst gs.connectionUpdates.1
  -- No tick erases a game of the tick before, also not the rest of them.
  erases : gs.base.server.isRunning = false → gs.stop.clearedCount = true →
    ∀ sid, ¬ Erases gs gs' sid

structure Cleared (inst : GameInstance T G) (gs : GameServer T G Worker) : Prop where
  games : gs.stop.clearedGames = true → gs.games = ∅ ∧ gs.outMessages = ∅
  batches : gs.stop.clearedGames = true →
    gs.inMessages.2 = ∅ ∧ (gs.loop.processing = false → gs.connectionUpdates.2 = [])
  loop : gs.stop.clearedGames = true → gs.loop.Idles inst
  messages : gs.stop.clearedMessages = true → gs.inMessages.1 = ∅
  updates : gs.stop.clearedUpdates = true → gs.connectionUpdates.1 = []
  count : gs.stop.clearedCount = true → gs.gameCount = 0

theorem GameServer.eraseGame_empty (gs : GameServer T G Worker) (sid : T.SessionId)
    (h : gs.games = ∅ ∧ gs.outMessages = ∅) :
    (gs.eraseGame sid).games = ∅ ∧ (gs.eraseGame sid).outMessages = ∅ := by
  obtain ⟨hg, ho⟩ := h
  constructor
  · rw [eraseGame, hg]
    exact Map.erase_absent ∅ (Finmap.lookup_empty sid)
  · rw [eraseGame, ho]
    exact Map.erase_absent ∅ (Finmap.lookup_empty sid)

theorem GameServer.processGameUpdates_empty {inst : GameInstance T G}
    (gs : GameServer T G Worker) (t : Int) {order : List T.SessionId}
    (ho : order.toFinset = gs.games.keys) (h : gs.games = ∅) :
    gs.processGameUpdates inst t order = { gs with inMessages := (gs.inMessages.2, ∅) } := by
  rw [h] at ho
  have horder : order = [] := (List.toFinset_eq_empty_iff order).1 ho
  subst horder
  rfl

theorem GameServer.handle_no_message (gs : GameServer T G Worker) (evs : List (Event T))
    (h : ∀ cid msg, .handleMessage cid msg ∉ evs) :
    (evs.foldl GameServer.handle gs).inMessages = gs.inMessages := by
  induction evs generalizing gs with
  | nil => rfl
  | cons e evs ih =>
    rw [List.foldl_cons, ih]
    · cases e with
      | handleMessage cid msg => exact (h cid msg List.mem_cons_self).elim
      | _ => rfl
    · exact fun cid msg hm => h cid msg (List.mem_cons_of_mem _ hm)

variable {cfg : Config T} {inst : GameInstance T G} {timestep : Int}
  {gs gs' : GameServer T G Worker}

theorem Creates.tail {u : ConnectionUpdate T} {todo : List (ConnectionUpdate T)}
    (h : Creates inst todo) : Creates inst (u :: todo) := by
  obtain ⟨cid, data, hm, hv⟩ := h
  exact ⟨cid, data, List.mem_cons_of_mem _ hm, hv⟩

theorem clearedGames_of_messages {pc : GameStopPc} (h : pc.clearedMessages = true) :
    pc.clearedGames = true := by
  cases pc <;> first | rfl | cases h

theorem clearedGames_of_updates {pc : GameStopPc} (h : pc.clearedUpdates = true) :
    pc.clearedGames = true := by
  cases pc <;> first | rfl | cases h

theorem clearedGames_of_count {pc : GameStopPc} (h : pc.clearedCount = true) :
    pc.clearedGames = true := by
  cases pc <;> first | rfl | cases h

theorem Cleared.of_uncleared (h : gs.stop.clearedGames = false) : Cleared inst gs := by
  constructor
  · exact fun hc => Bool.noConfusion (h.symm.trans hc)
  · exact fun hc => Bool.noConfusion (h.symm.trans hc)
  · exact fun hc => Bool.noConfusion (h.symm.trans hc)
  · exact fun hc => Bool.noConfusion (h.symm.trans (clearedGames_of_messages hc))
  · exact fun hc => Bool.noConfusion (h.symm.trans (clearedGames_of_updates hc))
  · exact fun hc => Bool.noConfusion (h.symm.trans (clearedGames_of_count hc))

theorem Cleared.moved (hs : Cleared inst gs) (hstop : gs'.stop = gs.stop)
    (hg : gs'.games = gs.games) (ho : gs'.outMessages = gs.outMessages)
    (hm : gs'.inMessages = gs.inMessages) (hu : gs'.connectionUpdates = gs.connectionUpdates)
    (hc : gs'.gameCount = gs.gameCount)
    (hl : gs.stop.clearedGames = true → gs.loop.Idles inst → gs'.loop.Idles inst)
    (hp : gs'.loop.processing = false → gs.loop.processing = false) : Cleared inst gs' := by
  constructor
  · rw [hstop, hg, ho]
    exact hs.games
  · rw [hstop, hm, hu]
    exact fun h => ⟨(hs.batches h).1, fun hn => (hs.batches h).2 (hp hn)⟩
  · rw [hstop]
    exact fun h => hl h (hs.loop h)
  · rw [hstop, hm]
    exact hs.messages
  · rw [hstop, hu]
    exact hs.updates
  · rw [hstop, hc]
    exact hs.count

theorem LoopStep.cleared (h : LoopStep cfg inst timestep gs evs gs') (hs : Cleared inst gs)
    (hcreates : gs.stop.clearedGames = true → BeginsTick gs gs' →
      ¬ Creates inst gs.connectionUpdates.1)
    (herases : gs.stop.clearedCount = true → ∀ sid, ¬ Erases gs gs' sid) :
    Cleared inst gs' := by
  have hloop {pc : GamePc T} (hl : gs.loop = pc) (hc : gs.stop.clearedGames = true) :
      pc.Idles inst := hl ▸ hs.loop hc
  have hproc {pc : GamePc T} (hl : gs.loop = pc) (hp : pc.processing = false) :
      gs.loop.processing = false := hl ▸ hp
  cases h with
  | enter t hl hr | exit hl hr | lock hl hg | noGames hl hg | wait hl hu | pass hl hu
  | wakeStopped hl hr | wake hl hr hu | recheck hl hr hu | relock hl | sleep hl ht | finish hl =>
    exact hs.moved rfl rfl rfl rfl rfl rfl (fun _ _ => trivial) fun _ => hproc hl rfl
  | swapUpdates hl ht =>
    constructor
    · exact hs.games
    · intro hc
      exact ⟨(hs.batches hc).1, fun hp => Bool.noConfusion hp⟩
    · intro hc
      exact hcreates hc ⟨⟨_, hl⟩, rfl⟩
    · exact hs.messages
    · intro hc
      exact (hs.batches (clearedGames_of_updates hc)).2 (hproc hl rfl)
    · exact hs.count
  | disconnectPlayer hl hg | connectPlayer hl hg =>
    refine .of_uncleared (Bool.eq_false_iff.2 fun hc => ?_)
    rw [(hs.games hc).1, Finmap.lookup_empty] at hg
    cases hg
  | createGame hl hn hv =>
    refine .of_uncleared (Bool.eq_false_iff.2 fun hc => ?_)
    exact hloop hl hc ⟨_, _, List.mem_cons_self, hv⟩
  | disconnectIgnored hl hg | rejectData hl hn hv hc =>
    refine hs.moved rfl rfl rfl rfl rfl rfl (fun hc _ => ?_) fun hp => Bool.noConfusion hp
    exact fun hcr => hloop hl hc hcr.tail
  | clearUpdates hl =>
    exact ⟨hs.games, fun hc => ⟨(hs.batches hc).1, fun _ => rfl⟩, fun _ => trivial, hs.messages,
      hs.updates, hs.count⟩
  | eraseFinished hl hf =>
    constructor
    · exact fun hc => gs.eraseGame_empty _ (hs.games hc)
    · exact hs.batches
    · exact hs.loop
    · exact hs.messages
    · exact hs.updates
    · exact fun hc => (herases hc _ ⟨⟨_, hl⟩, hf⟩).elim
  | clearFinished hl hf =>
    exact hs.moved rfl rfl rfl rfl rfl rfl (fun _ _ => trivial) fun _ => hproc hl rfl
  | updateGames order hl hn ho =>
    by_cases hc : gs.stop.clearedGames = true
    · obtain ⟨hg, hout⟩ := hs.games hc
      rw [gs.processGameUpdates_empty _ ho hg]
      constructor
      · exact fun _ => ⟨hg, hout⟩
      · intro _
        exact ⟨rfl, fun _ => (hs.batches hc).2 (hproc hl rfl)⟩
      · intro _
        exact congrArg Finmap.keys hout
      · exact fun _ => (hs.batches hc).1
      · exact hs.updates
      · exact hs.count
    · rw [GameServer.processGameUpdates_eq]
      exact .of_uncleared (Bool.eq_false_iff.2 hc)
  | sendSession sid hl hm | skipGame sid hl hm hg hd | endGame sid hl hm hg hd hc =>
    refine hs.moved rfl rfl rfl rfl rfl rfl (fun hc _ => ?_) fun _ => hproc hl rfl
    have htodo := hloop hl hc
    rw [htodo] at hm
    exact (Finset.notMem_empty _ hm).elim
  | sendMessage hl hc =>
    exact hs.moved rfl rfl rfl rfl rfl rfl (fun hc _ => (hloop hl hc).elim) fun _ =>
      hproc hl rfl
  | clearMessages hl =>
    exact .of_uncleared (Bool.eq_false_iff.2 fun hc => hloop hl hc)
  | sendDone hl =>
    refine hs.moved rfl rfl rfl rfl rfl rfl (fun hc _ => ?_) fun _ => hproc hl rfl
    exact congrArg Finmap.keys (hs.games hc).1
  | pushFinished hl =>
    exact hs.moved rfl rfl rfl rfl rfl rfl (fun hc _ => (hloop hl hc).elim) fun _ =>
      hproc hl rfl

theorem GamePc.idles_of_outside (inst : GameInstance T G) {pc : GamePc T}
    (h : pc.holdsGames = false) :
    pc.Idles inst ∧ pc.processing = false := by
  cases pc <;> first | exact ⟨trivial, rfl⟩ | cases h

theorem GameStopStep.cleared (h : GameStopStep gs evs gs')
    (hs : gs.base.server.isRunning = false → Cleared inst gs)
    (hr : gs'.base.server.isRunning = false) : Cleared inst gs' := by
  cases h with
  | stop hst hb hc | clearAll hst hb hc | notifyAll hst hb hc | notify hst =>
    exact .of_uncleared rfl
  | clearGames hst hl =>
    obtain ⟨hidle, hp⟩ := GamePc.idles_of_outside inst hl
    exact ⟨fun _ => ⟨rfl, rfl⟩, fun _ => ⟨rfl, fun _ => rfl⟩, fun _ => hidle,
      fun hc => Bool.noConfusion hc, fun hc => Bool.noConfusion hc,
      fun hc => Bool.noConfusion hc⟩
  | clearMessages hst =>
    have hc : gs.stop.clearedGames = true := congrArg GameStopPc.clearedGames hst
    have hs := hs hr
    exact ⟨fun _ => hs.games hc, fun _ => hs.batches hc, fun _ => hs.loop hc, fun _ => rfl,
      fun hc => Bool.noConfusion hc, fun hc => Bool.noConfusion hc⟩
  | clearUpdates hst hl =>
    have hc : gs.stop.clearedGames = true := congrArg GameStopPc.clearedGames hst
    have hm : gs.stop.clearedMessages = true := congrArg GameStopPc.clearedMessages hst
    have hs := hs hr
    exact ⟨fun _ => hs.games hc, fun _ => hs.batches hc, fun _ => hs.loop hc,
      fun _ => hs.messages hm, fun _ => rfl, fun hc => Bool.noConfusion hc⟩
  | clearCount hst =>
    have hc : gs.stop.clearedGames = true := congrArg GameStopPc.clearedGames hst
    have hm : gs.stop.clearedMessages = true := congrArg GameStopPc.clearedMessages hst
    have hu : gs.stop.clearedUpdates = true := congrArg GameStopPc.clearedUpdates hst
    have hs := hs hr
    exact ⟨fun _ => hs.games hc, fun _ => hs.batches hc, fun _ => hs.loop hc,
      fun _ => hs.messages hm, fun _ => hs.updates hu, fun _ => rfl⟩

/-- `update_games` is called again. -/
def GameServer.restart (gs : GameServer T G Worker) : GameServer T G Worker :=
  { gs with finishedGames := [], loop := .testing }

theorem GameServer.restart_lifeCycle (gs : GameServer T G Worker) (hg : gs.games = ∅)
    (ho : gs.outMessages = ∅) (hc : gs.gameCount = gs.games.keys.card) :
    LifeCycle gs.restart where
  keys := by
    change gs.outMessages.keys = gs.games.keys
    rw [hg, ho]
    rfl
  count := hc
  nodup := .nil
  finished sid hm := (List.not_mem_nil hm).elim
  unfinished sid hm := (Finset.notMem_empty sid hm).elim
  once sid todo h := by cases h
  unsent := Finset.empty_subset _
  erased h := by cases h

theorem LeavesEmpty.running (h : gs.base.server.isRunning = true) :
    LeavesEmpty inst gs evs gs' := by
  constructor <;> exact fun hr => Bool.noConfusion (h.symm.trans hr)

theorem LeavesEmpty.testing (hl : gs.loop = .testing) (he : ∀ e ∈ evs, e.handled = false) :
    LeavesEmpty inst gs evs gs' := by
  constructor
  · intro _ _
    exact filterMap_unhandled he Event.connectionUpdate_of_unhandled
  · intro _ _ cid msg hm
    cases he _ hm
  · intro _ _ hb
    obtain ⟨⟨t, ht⟩, -⟩ := hb
    cases hl.symm.trans ht
  · intro _ _ sid he
    obtain ⟨⟨t, ht⟩, -⟩ := he
    cases hl.symm.trans ht

theorem LeavesEmpty.stop (h : GameStopStep gs evs gs') : LeavesEmpty inst gs evs gs' := by
  have hloop : gs'.loop = gs.loop := by cases h <;> rfl
  constructor
  · intro _ _
    cases h <;> rfl
  · intro _ _
    cases h <;> simp
  · intro _ _ hb
    obtain ⟨⟨t, hl⟩, hp⟩ := hb
    rw [hloop, hl] at hp
    cases hp
  · intro _ _ sid he
    have hf : gs'.finishedGames = gs.finishedGames := by cases h <;> rfl
    exact List.cons_ne_self _ _ (he.2.symm.trans hf.symm)

variable [DecidableEq Worker]

theorem cleared_invariant :
    ((gameServer cfg inst timestep).restrict (LeavesEmpty inst)).Invariant
      fun gs : GameServer T G Worker =>
        gs.base.server.isRunning = false → Cleared inst gs where
  init := by
    rintro gs ⟨t, rfl⟩ -
    exact ⟨fun _ => ⟨rfl, rfl⟩, fun _ => ⟨rfl, fun _ => rfl⟩, fun _ => trivial, fun _ => rfl,
      fun _ => rfl, fun _ => rfl⟩
  step := by
    rintro gs evs gs' - hs ⟨h, hempty⟩ hr
    cases h with
    | transport h =>
      exact (hs (h.isRunning.symm.trans hr)).moved rfl rfl rfl rfl rfl rfl (fun _ => id) id
    | worker w h hfree =>
      have hrun := h.isRunning.symm.trans hr
      have hs := hs hrun
      have hbatch := gs.foldl_handle_batch evs
      rw [GameServer.foldl_handle_eq]
      constructor
      · exact hs.games
      · intro hc
        exact ⟨hbatch.trans (hs.batches hc).1, (hs.batches hc).2⟩
      · exact hs.loop
      · intro hc
        change (evs.foldl GameServer.handle gs).inMessages.1 = ∅
        rw [gs.handle_no_message evs (hempty.messages hrun hc)]
        exact hs.messages hc
      · intro hc
        change gs.connectionUpdates.1 ++ evs.filterMap Event.connectionUpdate = []
        rw [hempty.updates hrun hc, List.append_nil]
        exact hs.updates hc
      · exact hs.count
    | loop hidle h =>
      have hrun := h.isRunning.symm.trans hr
      exact h.cleared (hs hrun) (hempty.creates hrun) (hempty.erases hrun)
    | call hbusy h =>
      exact (hs (h.isRunning.symm.trans hr)).moved rfl rfl rfl rfl rfl rfl (fun _ => id) id
    | run h =>
      generalize gs.base.control = control at h
      cases h with
      | run hn => cases hr
    | stop h => exact h.cleared hs hr

/-- As long as no step puts anything into what `stop` has cleared: once `stop` has returned and
the loop has exited, the game server is empty, its counter is the number of games, and no
decrement in the next run wraps. -/
theorem stop_leaves_empty (cfg : Config T) (inst : GameInstance T G) (timestep : Int)
    (h : ((gameServer cfg inst timestep).restrict (LeavesEmpty inst)).Reachable gs)
    (hs : gs.stop = .idle) (hr : gs.base.server.isRunning = false) (hl : gs.loop = .returned) :
    gs.games = ∅ ∧ gs.outMessages = ∅ ∧ gs.inMessages = (∅, ∅) ∧
      gs.connectionUpdates = ([], []) ∧ gs.gameCount = gs.games.keys.card ∧
      ∀ ls gs', (varyingServer cfg (fun _ => True) timestep).Run gs.restart ls gs' →
        ∀ pre sid post, gs'.finishedGames = pre ++ sid :: post →
          0 < (pre.foldl GameServer.eraseGame gs').gameCount := by
  have hc := cleared_invariant.reachable h hr
  obtain ⟨hg, ho⟩ := hc.games (congrArg GameStopPc.clearedGames hs)
  obtain ⟨hm, hu⟩ := hc.batches (congrArg GameStopPc.clearedGames hs)
  have hm' := hc.messages (congrArg GameStopPc.clearedMessages hs)
  have hu' := hc.updates (congrArg GameStopPc.clearedUpdates hs)
  have hcount : gs.gameCount = gs.games.keys.card := by
    rw [hg]
    exact hc.count (congrArg GameStopPc.clearedCount hs)
  refine ⟨hg, ho, Prod.ext hm' hm, Prod.ext hu' (hu ?_), hcount, fun ls gs' hrun => ?_⟩
  · exact congrArg GamePc.processing hl
  · exact fun pre sid post he => ((gs.restart_lifeCycle hg ho hcount).run hrun).no_wrap he

end Steps

/-- The loop has passed the test of `is_running` when `stop` clears `m_games`, and it creates the
game of Bob's connect before `stop` goes on: a game is left that is not counted. -/
theorem stop_leaves_game :
    ∃ gs : GameServer natTraits Nat Unit, (gameServer natConfig natGame 0).Reachable gs ∧
      gs.stop = .idle ∧ gs.base.server.isRunning = false ∧ gs.loop = .returned ∧
      gs.base.worker () = .returned ∧ 7 ∈ gs.games.keys ∧ gs.gameCount = 0 := by
  have h0 : (gameServer natConfig natGame 0).Reachable
      (GameServer.start 0 : GameServer natTraits Nat Unit) := .init ⟨0, rfl⟩
  have h1 := h0.step (.run (.run rfl))
  have h2 := h1.step (.transport (.onMessage (6 : Nat) "bob"))
  have h3 := h2.step (.worker () (.enter rfl) nofun)
  have h4 := h3.step (.worker () (.pop rfl) nofun)
  have h5 := h4.step (.worker () (.messageUnbound rfl rfl) nofun)
  have h6 := h5.step (.worker () (.openSession ⟨0, 0⟩ rfl rfl rfl) nofun)
  have h7 := h6.step (.worker () .setupConnectionId nofun)
  have h8 := h7.step (.worker () .handleOpen nofun)
  have h9 := h8.step (.loop rfl (.enter 0 rfl rfl))
  have h10 := h9.step (.stop (.stop rfl rfl (.stop rfl)))
  have h11 := h10.step (.stop (.clearAll rfl rfl (.clearAll rfl)))
  have h12 := h11.step (.stop (.notifyAll rfl rfl .notifyAll))
  have h13 := h12.step (.stop (.notify rfl))
  have h14 := h13.step (.stop (.clearGames rfl rfl))
  have h15 := h14.step (.loop rfl (.noGames rfl rfl))
  have h16 := h15.step (.loop rfl (.pass rfl (List.cons_ne_nil _ _)))
  have h17 := h16.step (.loop rfl (.relock rfl))
  have h18 := h17.step (.loop rfl (.swapUpdates rfl (by decide)))
  have h19 := h18.step (.loop rfl (.createGame rfl rfl rfl))
  have h20 := h19.step (.stop (.clearMessages rfl))
  have h21 := h20.step (.stop (.clearUpdates rfl rfl))
  have h22 := h21.step (.stop (.clearCount rfl))
  have h23 := h22.step (.loop rfl (.clearUpdates rfl))
  have h24 := h23.step (.loop rfl (.clearFinished rfl rfl))
  have h25 := h24.step (.loop rfl (.updateGames [(7 : Nat)] rfl (by decide) rfl))
  have h26 := h25.step (.loop rfl (.sendSession (7 : Nat) rfl (by decide)))
  have h27 := h26.step (.loop rfl (.clearMessages rfl))
  have h28 := h27.step (.loop rfl (.sendDone rfl))
  have h29 := h28.step (.loop rfl (.skipGame (7 : Nat) rfl (by decide) rfl rfl))
  have h30 := h29.step (.loop rfl (.finish rfl))
  have h31 := h30.step (.loop rfl (.exit rfl rfl))
  have h32 := h31.step (.worker () (.exit rfl) (fun h => Bool.noConfusion h))
  exact ⟨_, h32, rfl, rfl, rfl, rfl, by decide, rfl⟩

/-- `stop` runs while Bob's connect waits for the loop. -/
theorem stop_leaves_empty_connect :
    ∃ gs : GameServer natTraits Nat Unit, .handleOpen ⟨2, 7⟩ (0 : Nat) ∈ gs.base.log ∧
      gs.connectionUpdates = ([], []) := by
  have h0 : ((gameServer natConfig natGame 0).restrict (LeavesEmpty natGame)).Reachable
      (GameServer.start 0 : GameServer natTraits Nat Unit) := .init ⟨0, rfl⟩
  have stopped {gs gs' : GameServer natTraits Nat Unit} {evs : List (Event natTraits)}
      (h : ((gameServer natConfig natGame 0).restrict (LeavesEmpty natGame)).Reachable gs)
      (hs : GameStopStep gs evs gs') :
      ((gameServer natConfig natGame 0).restrict (LeavesEmpty natGame)).Reachable gs' :=
    h.step ⟨.stop hs, .stop hs⟩
  have h1 := h0.step ⟨.run (.run rfl), .testing rfl (by simp [Event.handled])⟩
  have h2 := h1.step ⟨.transport (.onMessage (6 : Nat) "bob"), .running rfl⟩
  have h3 := h2.step ⟨.worker () (.enter rfl) nofun, .running rfl⟩
  have h4 := h3.step ⟨.worker () (.pop rfl) nofun, .running rfl⟩
  have h5 := h4.step ⟨.worker () (.messageUnbound rfl rfl) nofun, .running rfl⟩
  have h6 := h5.step ⟨.worker () (.openSession ⟨0, 0⟩ rfl rfl rfl) nofun, .running rfl⟩
  have h7 := h6.step ⟨.worker () .setupConnectionId nofun, .running rfl⟩
  have h8 := h7.step ⟨.worker () .handleOpen nofun, .running rfl⟩
  have h9 := stopped h8 (.stop rfl rfl (.stop rfl))
  have h10 := stopped h9 (.clearAll rfl rfl (.clearAll rfl))
  have h11 := stopped h10 (.notifyAll rfl rfl .notifyAll)
  have h12 := stopped h11 (.notify rfl)
  have h13 := stopped h12 (.clearGames rfl rfl)
  have h14 := stopped h13 (.clearMessages rfl)
  have h15 := stopped h14 (.clearUpdates rfl rfl)
  have h16 := stopped h15 (.clearCount rfl)
  have h17 := h16.step ⟨.loop rfl (.exit rfl rfl), .testing rfl (List.forall_mem_nil _)⟩
  exact ⟨_, by simp, (stop_leaves_empty natConfig natGame 0 h17 rfl rfl rfl).2.2.2.1⟩

end WebGameServer
