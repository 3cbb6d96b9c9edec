import WebGameServer.BaseServer.Completion
import WebGameServer.GameServer.Completed

namespace WebGameServer
set_option autoImplicit true

section Local

variable {T : Traits} {G Worker : Type} {cfg : Config T} {inst : GameInstance T G}
  {timestep : Int} {gs gs' : GameServer T G Worker} {log : List (Event T)}

/-- The player has connected, and since then has not disconnected and the session has not
been completed. -/
def Live (log : List (Event T)) (cid : CombinedId T) : Prop :=
  ∃ earlier data later, log = earlier ++ .handleOpen cid data :: later ∧
    .handleClose cid ∉ later ∧ ∀ r, .completing cid.session r ∉ later

/-- The game of the session has been told about the player. -/
def Told (games : Map T.SessionId (Game T G)) (cid : CombinedId T) : Prop :=
  ∃ g, games.lookup cid.session = some g ∧ .connect cid.player ∈ g.calls

theorem Live.of_append (h : Live (log ++ evs) cid) :
    (∃ data, .handleOpen cid data ∈ evs) ∨
      (Live log cid ∧ ∀ r, .completing cid.session r ∉ evs) := by
  obtain ⟨earlier, data, later, he, hclose, hcomplete⟩ := h
  rcases List.append_eq_append_iff.1 he with ⟨mid, hearlier, hevs⟩ | ⟨mid, hlog, hlater⟩
  · exact .inl ⟨data, hevs ▸ List.mem_append_right _ List.mem_cons_self⟩
  · cases mid with
    | nil =>
      have hevs : evs = .handleOpen cid data :: later := by simpa using hlater.symm
      exact .inl ⟨data, hevs ▸ List.mem_cons_self⟩
    | cons e mid =>
      obtain ⟨rfl, rfl⟩ := List.cons.inj hlater
      refine .inr ⟨⟨earlier, data, mid, hlog, fun hm => ?_, fun r hm => ?_⟩, fun r hm => ?_⟩
      · exact hclose (List.mem_append_left _ hm)
      · exact hcomplete r (List.mem_append_left _ hm)
      · exact hcomplete r (List.mem_append_right _ hm)

/-- Every connected player has its connect unprocessed or its game told, and the game is not
waiting to be erased. -/
structure Attended (gs : GameServer T G Worker) : Prop where
  connects : ∀ cid, Live gs.base.log cid →
    (∃ data, .connection cid data ∈ gs.unprocessed) ∨ Told gs.games cid
  unended : ∀ cid, Live gs.base.log cid → ¬ gs.Ended cid.session

theorem Attended.advance (h : Attended gs)
    (hlive : ∀ cid, Live gs'.base.log cid → Live gs.base.log cid)
    (hconnects : ∀ cid data, Live gs'.base.log cid → .connection cid data ∈ gs.unprocessed →
      .connection cid data ∈ gs'.unprocessed ∨ Told gs'.games cid)
    (htold : ∀ cid, Live gs'.base.log cid → Told gs.games cid → Told gs'.games cid)
    (hended : ∀ cid, Live gs'.base.log cid → gs'.Ended cid.session → gs.Ended cid.session) :
    Attended gs' where
  connects cid hl := by
    rcases h.connects cid (hlive cid hl) with ⟨data, hm⟩ | ht
    · exact (hconnects cid data hl hm).imp_left fun hm => ⟨data, hm⟩
    · exact .inr (htold cid hl ht)
  unended cid hl he := h.unended cid (hlive cid hl) (hended cid hl he)

theorem Told.store {gs : GameServer T G Worker} (h : Told gs.games cid)
    (hg : gs.games.lookup sid = some g) (calls : List (GameCall T)) (r : G × List (Message T)) :
    Told (gs.store sid (g.calls ++ calls) r).games cid := by
  obtain ⟨g', hg', hm⟩ := h
  simp only [Told, GameServer.store, Map.lookup_insert_ite]
  by_cases hs : cid.session = sid
  · rw [hs, hg] at hg'
    cases hg'
    refine ⟨⟨r.1, g.calls ++ calls⟩, by rw [if_pos hs], ?_⟩
    exact List.mem_append_left _ hm
  · exact ⟨g', by rw [if_neg hs]; exact hg', hm⟩

theorem Told.createGame {gs : GameServer T G Worker} (h : Told gs.games cid')
    (hn : gs.games.lookup cid.session = none) (game : G) :
    Told ((gs.createGame cid.session game).connectPlayer inst ⟨game, []⟩ cid).games cid' := by
  obtain ⟨g, hg, hm⟩ := h
  have hne : cid'.session ≠ cid.session := by
    intro he
    rw [he, hn] at hg
    cases hg
  refine ⟨g, ?_, hm⟩
  simpa only [GameServer.connectPlayer, GameServer.store, GameServer.createGame,
    Map.lookup_insert_ite, hne, ↓reduceIte] using hg

theorem told_connectPlayer (gs : GameServer T G Worker) (g : Game T G) (cid : CombinedId T) :
    Told (gs.connectPlayer inst g cid).games cid := by
  refine ⟨_, Finmap.lookup_insert _, ?_⟩
  exact List.mem_append_right _ (List.mem_singleton.2 rfl)

theorem connection_rest (hl : gs.loop = .connecting t (u :: todo))
    (hm : .connection cid data ∈ gs.unprocessed) :
    u = .connection cid data ∨ .connection cid data ∈ todo ++ gs.connectionUpdates.1 := by
  rw [GameServer.unprocessed, hl] at hm
  exact (List.mem_cons.1 hm).imp_left Eq.symm

theorem Live.not_completed (h : Live (log ++ [.completing sid r]) cid) :
    Live log cid ∧ cid.session ≠ sid := by
  rcases h.of_append with ⟨data, hm⟩ | ⟨hl, hn⟩
  · cases List.mem_singleton.1 hm
  · refine ⟨hl, ?_⟩
    rintro rfl
    exact hn r (List.mem_singleton.2 rfl)

/-- The first update of the batch is processed: a game is told about its player, unless the
player is not connected any more. -/
theorem Attended.process (hs : Attended gs) (hl : gs.loop = .connecting t (u :: todo))
    (hlive : ∀ cid, Live gs'.base.log cid → Live gs.base.log cid)
    (hu : ∀ cid data, Live gs'.base.log cid → u = .connection cid data → Told gs'.games cid)
    (htold : ∀ cid, Told gs.games cid → Told gs'.games cid)
    (hupdates : gs'.connectionUpdates = gs.connectionUpdates)
    (hfinished : gs'.finishedGames = gs.finishedGames)
    (hloop : gs'.loop = .connecting t todo) : Attended gs' := by
  apply hs.advance hlive ?_ (fun cid _ => htold cid) ?_
  · intro cid data h hm
    rw [GameServer.unprocessed, hupdates, hloop]
    rcases connection_rest hl hm with he | hm
    · exact .inr (hu cid data h he)
    · exact .inl hm
  · intro cid _ he
    rw [GameServer.Ended, hfinished, hloop] at he
    exact he.imp_right (GamePc.not_ended rfl)

/-- The game of a player who is still connected is not among the erased ones. -/
theorem Attended.eraseFinished (hs : Attended gs) (hf : gs.finishedGames = a :: rest) :
    Attended { gs.eraseGame a with finishedGames := rest } := by
  refine hs.advance (fun _ => id) (fun _ _ _ => .inl) ?_ ?_
  · rintro cid h ⟨g, hg, hm⟩
    have hne : cid.session ≠ a := by
      rintro rfl
      exact hs.unended cid h (.inl (hf ▸ List.mem_cons_self))
    refine ⟨g, (gs.lookup_eraseGame a cid.session).trans ?_, hm⟩
    rw [if_neg hne]
    exact hg
  · intro cid _ he
    apply he.imp_left
    intro hm
    rw [hf]
    exact List.mem_cons_of_mem a hm

theorem Attended.updateGames (hs : Attended gs) (hl : gs.loop = .updating t)
    (hn : order.Nodup) (ho : order.toFinset = gs.games.keys) :
    Attended { gs.processGameUpdates inst t order with
      loop := .sending (gs.processGameUpdates inst t order).outMessages.keys } := by
  have hlookup := gs.lookup_processGameUpdates inst t order hn ho
  have heq := gs.processGameUpdates_eq inst t order
  apply hs.advance
  · intro cid h
    rw [heq] at h
    exact h
  · intro cid data _ hm
    rw [GameServer.unprocessed, hl] at hm
    rw [heq]
    exact .inl hm
  · rintro cid _ ⟨g, hg, hm⟩
    refine ⟨gs.swapMessages.updated inst t cid.session g, ?_, List.mem_append_left _ hm⟩
    rw [hlookup, hg, Option.map_some]
  · intro cid _ he
    rw [heq] at he
    exact he.imp_right (GamePc.not_ended rfl)

theorem Attended.endGame (hs : Attended gs) (hl : gs.loop = .finishing todo)
    {s : Server T (Worker ⊕ Unit)} {pc : CallerPc T} :
    Attended { gs.called [.completing sid r] s pc with loop := .ending sid todo' } := by
  refine hs.advance (fun cid h => h.not_completed.1) ?_ (fun _ _ => id) ?_
  · intro cid data _ hm
    rw [GameServer.unprocessed, hl] at hm
    exact .inl hm
  · intro cid h he
    refine .inl (he.resolve_right fun he => ?_)
    exact h.not_completed.2 (Option.some.inj he).symm

theorem Attended.pushFinished (hs : Attended gs) (hl : gs.loop = .ending sid todo) :
    Attended { gs with
      finishedGames := gs.finishedGames ++ [sid]
      loop := .finishing todo } := by
  refine hs.advance (fun _ => id) ?_ (fun _ _ => id) ?_
  · intro cid data _ hm
    rw [GameServer.unprocessed, hl] at hm
    exact .inl hm
  · rintro cid - (he | he)
    · rcases List.mem_append.1 he with he | he
      · exact .inl he
      · refine .inr ?_
        rw [hl, List.mem_singleton.1 he]
        rfl
    · cases he

theorem LoopStep.attended (h : LoopStep cfg inst timestep gs evs gs') (hs : Attended gs) :
    Attended gs' := by
  have move {pc : GamePc T} (ht : gs.loop.todo ⊆ pc.todo) (he : pc.ended = none) :
      Attended { gs with loop := pc } := by
    refine hs.advance (fun _ => id) (fun cid data _ hm => .inl ?_) (fun _ _ => id)
      fun cid _ hended => .inl (hended.resolve_right fun h => GamePc.not_ended he h)
    rcases List.mem_append.1 hm with hm | hm
    · exact List.mem_append_left _ (ht hm)
    · exact List.mem_append_right _ hm
  cases h with
  | enter t hl hr | exit hl hr | lock hl hg | noGames hl hg | wait hl hu | pass hl hu
  | wakeStopped hl hr | wake hl hr hu | recheck hl hr hu | relock hl | sleep hl ht
  | clearFinished hl hf | sendSession sid hl hm | sendDone hl | skipGame sid hl hm hg hd
  | finish hl =>
    exact move (by rw [hl]; exact List.nil_subset _) rfl
  | swapUpdates hl ht =>
    refine hs.advance (fun _ => id) (fun cid data _ hm => .inl ?_) (fun _ _ => id)
      fun cid _ he => he.imp_right (GamePc.not_ended rfl)
    rw [GameServer.unprocessed, hl] at hm
    exact List.mem_append_left _ hm
  | disconnectPlayer hl hg =>
    refine hs.process hl (fun _ => id) ?_ (fun _ ht => ht.store hg _ _) rfl rfl rfl
    intro cid data _ he
    cases he
  | disconnectIgnored hl hg =>
    refine hs.process hl (fun _ => id) ?_ (fun _ => id) rfl rfl rfl
    intro cid data _ he
    cases he
  | connectPlayer hl hg =>
    refine hs.process hl (fun _ => id) ?_ (fun _ ht => ht.store hg _ _) rfl rfl rfl
    intro cid data _ he
    cases he
    exact told_connectPlayer _ _ _
  | createGame hl hn hv =>
    refine hs.process hl (fun _ => id) ?_ (fun _ ht => ht.createGame hn _) rfl rfl rfl
    intro cid data _ he
    cases he
    exact told_connectPlayer _ _ _
  | rejectData hl hn hv hc =>
    refine hs.process hl (fun _ h => h.not_completed.1) ?_ (fun _ => id) rfl rfl rfl
    intro cid data h he
    cases he
    exact (h.not_completed.2 rfl).elim
  | clearUpdates hl | clearMessages hl =>
    refine hs.advance (fun _ => id) (fun cid data _ hm => .inl ?_) (fun _ _ => id)
      fun cid _ he => he.imp_right (GamePc.not_ended rfl)
    rw [GameServer.unprocessed, hl] at hm
    exact hm
  | eraseFinished hl hf => exact hs.eraseFinished hf
  | updateGames order hl hn ho => exact hs.updateGames hl hn ho
  | sendMessage hl hc =>
    refine hs.advance (fun cid h => ?_) (fun cid data _ hm => .inl ?_) (fun _ _ => id)
      fun cid _ he => he.imp_right (GamePc.not_ended rfl)
    · rcases h.of_append with ⟨data, hm⟩ | ⟨h, -⟩
      · cases List.mem_singleton.1 hm
      · exact h
    · rw [GameServer.unprocessed, hl] at hm
      exact hm
  | endGame sid hl hm hg hd hc => exact hs.endGame hl
  | pushFinished hl => exact hs.pushFinished hl

theorem Attended.outer (h : Attended gs)
    (hevs : ∀ cid data, .handleOpen cid data ∈ evs → ¬ gs.Ended cid.session)
    (hlog : gs'.base.log = gs.base.log ++ evs)
    (hupdates : gs'.connectionUpdates =
      (gs.connectionUpdates.1 ++ evs.filterMap Event.connectionUpdate, gs.connectionUpdates.2))
    (hgames : gs'.games = gs.games) (hfinished : gs'.finishedGames = gs.finishedGames)
    (hloop : gs'.loop = gs.loop) : Attended gs' := by
  have hold : ∀ cid, Live gs'.base.log cid →
      (∃ data, .handleOpen cid data ∈ evs) ∨ Live gs.base.log cid := by
    intro cid hl
    rw [hlog] at hl
    exact hl.of_append.imp_right And.left
  constructor
  · intro cid hl
    rw [GameServer.unprocessed, hloop, hupdates, hgames]
    rcases hold cid hl with ⟨data, hm⟩ | hl
    · refine .inl ⟨data, List.mem_append_right _ (List.mem_append_right _ ?_)⟩
      exact List.mem_filterMap.2 ⟨_, hm, rfl⟩
    · apply (h.connects cid hl).imp_left (Exists.imp fun data hm => ?_)
      rw [← List.append_assoc]
      exact List.mem_append_left _ hm
  · intro cid hl he
    simp only [GameServer.Ended, hfinished, hloop] at he
    rcases hold cid hl with ⟨data, hm⟩ | hl
    · exact hevs cid data hm he
    · exact h.unended cid hl he

end Local

section Run

variable {T : Traits} {G Worker : Type} [DecidableEq Worker] {cfg : Config T}
  {inst : GameInstance T G} {timestep : Int} {gs gs' : GameServer T G Worker}

/-- A step of a run without `stop` in which nobody logs in to a session whose ended game is
not erased yet. -/
structure LoginsAfterErasure (gs : GameServer T G Worker) (evs : List (Event T))
    (_ : GameServer T G Worker) : Prop where
  running : .stopping ∉ evs
  erased : ∀ cid data, .handleOpen cid data ∈ evs → ¬ gs.Ended cid.session

theorem attended_invariant :
    ((gameServer cfg inst timestep).restrict LoginsAfterErasure).Invariant
    fun gs : GameServer T G Worker => Attended gs where
  init := by
    intro gs hinit
    obtain ⟨t, rfl⟩ := hinit
    refine ⟨fun cid hl => ?_, fun cid hl => ?_⟩ <;>
    · obtain ⟨earlier, data, later, he, -⟩ := hl
      cases (List.append_eq_nil_iff.1 he.symm).2
  step {gs evs gs'} hr hs h := by
    obtain ⟨h, hf⟩ := h
    cases h with
    | transport h =>
      refine hs.outer hf.erased rfl ?_ rfl rfl rfl
      rw [filterMap_unhandled h.unhandled Event.connectionUpdate_of_unhandled,
        List.append_nil]
    | worker w h hfree =>
      rw [GameServer.foldl_handle_eq]
      exact hs.outer hf.erased rfl rfl rfl rfl rfl
    | loop hidle h => exact h.attended hs
    | call hbusy h =>
      refine hs.outer hf.erased rfl ?_ rfl rfl rfl
      rw [filterMap_unhandled h.unhandled Event.connectionUpdate_of_unhandled,
        List.append_nil]
      rfl
    | run h =>
      refine hs.outer hf.erased rfl ?_ rfl rfl rfl
      exact Prod.ext (List.append_nil _).symm rfl
    | stop h => cases h <;> exact (hf.running List.mem_cons_self).elim

/-- The message of the player is in the batch that `process_game_updates` is going to run. -/
def InBatch (gs : GameServer T G Worker) (cid : CombinedId T) (msg : String) : Prop :=
  (cid.player, msg) ∈ (gs.inMessages.1.lookup cid.session).getD []

/-- The game of the session, which had been told about the player, was passed the message in
its next call, an `update`. -/
def Delivered (gs gs' : GameServer T G Worker) (cid : CombinedId T) (msg : String) : Prop :=
  ∃ g g' msgs t, gs.games.lookup cid.session = some g ∧ .connect cid.player ∈ g.calls ∧
    gs'.games.lookup cid.session = some g' ∧ g'.calls = g.calls ++ [.update msgs t] ∧
    (cid.player, msg) ∈ msgs

omit [DecidableEq Worker] in
/-- The message is delivered exactly if the game was told about its sender before. -/
theorem delivered_iff_told (hn : order.Nodup) (ho : order.toFinset = gs.games.keys)
    (hm : InBatch gs cid msg) :
    Delivered gs (gs.processGameUpdates inst t order) cid msg ↔ Told gs.games cid := by
  constructor
  · rintro ⟨g, g', msgs, t', hg, hc, -⟩
    exact ⟨g, hg, hc⟩
  · rintro ⟨g, hg, hc⟩
    refine ⟨g, gs.swapMessages.updated inst t cid.session g, _, t, hg, hc, ?_, rfl, hm⟩
    rw [gs.lookup_processGameUpdates inst t order hn ho, hg, Option.map_some]

omit [DecidableEq Worker] in
theorem LoopStep.of_updating (h : LoopStep cfg inst timestep gs evs gs')
    (hloop : gs.loop = .updating t) :
    ∃ order : List T.SessionId, order.Nodup ∧ order.toFinset = gs.games.keys ∧
      gs' = { gs.processGameUpdates inst t order with
        loop := .sending (gs.processGameUpdates inst t order).outMessages.keys } := by
  cases h with
  | updateGames order hl hn ho =>
    cases hloop.symm.trans hl
    exact ⟨order, hn, ho, rfl⟩
  | enter t' hl hr | exit hl hr | lock hl hg | noGames hl hg | wait hl hu | pass hl hu
  | wakeStopped hl hr | wake hl hr hu | recheck hl hr hu | relock hl | sleep hl ht
  | swapUpdates hl ht | disconnectPlayer hl hg | disconnectIgnored hl hg | connectPlayer hl hg
  | createGame hl hg hv | rejectData hl hg hv hc | clearUpdates hl | eraseFinished hl hf
  | clearFinished hl hf | sendSession sid hl hm | sendMessage hl hc | clearMessages hl | sendDone hl
  | skipGame sid hl hm hg hd | endGame sid hl hm hg hd hc | pushFinished hl | finish hl =>
    cases hloop.symm.trans hl

/-- Whenever a batch of messages is run: the messages of all connected players are delivered
to games that know their senders, exactly if no connect of such a sender is still waiting for
the next tick, unless the game knows the sender from before. -/
theorem messages_delivered_iff_connects_processed
    (hgs : ((gameServer cfg inst timestep).restrict LoginsAfterErasure).Reachable gs)
    (hloop : gs.loop = .updating t) (h : LoopStep cfg inst timestep gs evs gs') :
    (∀ cid msg, InBatch gs cid msg → Live gs.base.log cid → Delivered gs gs' cid msg) ↔
    ∀ cid msg, InBatch gs cid msg → Live gs.base.log cid →
      ∀ data, .connection cid data ∈ gs.connectionUpdates.1 → Told gs.games cid := by
  have hconnects := (attended_invariant.reachable hgs).connects
  obtain ⟨order, hn, ho, rfl⟩ := h.of_updating hloop
  constructor
  · intro h cid msg hm hlive data _
    exact (delivered_iff_told hn ho hm).1 (h cid msg hm hlive)
  · intro h cid msg hm hlive
    apply (delivered_iff_told hn ho hm).2
    rcases hconnects cid hlive with ⟨data, hu⟩ | ht
    · rw [GameServer.unprocessed, hloop] at hu
      exact h cid msg hm hlive data hu
    · exact ht

theorem LoginsAfterErasure.loop
    (h : ((gameServer cfg inst timestep).restrict LoginsAfterErasure).Reachable gs)
    (hidle : gs.base.caller () = .idle) (hs : LoopStep cfg inst timestep gs [] gs') :
    ((gameServer cfg inst timestep).restrict LoginsAfterErasure).Reachable gs' :=
  h.step ⟨.loop hidle hs, List.not_mem_nil, nofun⟩

end Run

/-- Ada connects and sends a message after the tick has swapped the connects and before it
swaps the messages: the message is passed to a game that has not been told about her. -/
theorem message_overtakes_connect :
    ∃ gs : GameServer natTraits Nat Unit,
      ((gameServer natConfig natGame 0).restrict LoginsAfterErasure).Reachable gs ∧
      gs.loop = .updating 0 ∧ InBatch gs ⟨1, 7⟩ "move" ∧
      (∃ earlier later, gs.base.log = earlier ++ .handleOpen ⟨1, 7⟩ 0 :: later ∧
        .handleMessage ⟨1, 7⟩ "move" ∈ later ∧ .handleClose ⟨1, 7⟩ ∉ later ∧
        ∀ r, .completing 7 r ∉ later) ∧
      ∀ evs gs', LoopStep natConfig natGame 0 gs evs gs' →
        ¬ Delivered gs gs' ⟨1, 7⟩ "move" := by
  have h0 : ((gameServer natConfig natGame 0).restrict LoginsAfterErasure).Reachable
      (GameServer.start 0 : GameServer natTraits Nat Unit) := .init ⟨0, rfl⟩
  have h1 := h0.step ⟨.run (.run rfl), by simp, by simp⟩
  have h2 := h1.step ⟨.transport (.onMessage (6 : Nat) "bob"), by simp, by simp⟩
  have h3 := h2.step ⟨.transport (.onMessage (5 : Nat) "ada"), by simp, by simp⟩
  have h4 := h3.step ⟨.transport (.onMessage (5 : Nat) "move"), by simp, by simp⟩
  have h5 := h4.step ⟨.worker () (.enter rfl) nofun, by simp, by simp⟩
  have h6 := h5.step ⟨.worker () (.pop rfl) nofun, by simp, by simp⟩
  have h7 := h6.step ⟨.worker () (.messageUnbound rfl rfl) nofun, by simp, by simp⟩
  have h8 := h7.step
    ⟨.worker () (.openSession ⟨0, 0⟩ rfl rfl rfl) nofun, by simp, by simp⟩
  have h9 := h8.step ⟨.worker () .setupConnectionId nofun, by simp, by simp⟩
  have h10 := h9.step
    ⟨.worker () .handleOpen nofun, by simp, fun _ _ _ h => h.elim nofun nofun⟩
  have h11 := LoginsAfterErasure.loop h10 rfl (.enter 0 rfl rfl)
  have h12 := LoginsAfterErasure.loop h11 rfl (.noGames rfl rfl)
  have h13 := LoginsAfterErasure.loop h12 rfl (.pass rfl nofun)
  have h14 := LoginsAfterErasure.loop h13 rfl (.relock rfl)
  have h15 := LoginsAfterErasure.loop h14 rfl (.swapUpdates rfl (by decide))
  have h16 := h15.step ⟨.worker () (.enter rfl) nofun, by simp, by simp⟩
  have h17 := h16.step ⟨.worker () (.pop rfl) nofun, by simp, by simp⟩
  have h18 := h17.step ⟨.worker () (.messageUnbound rfl rfl) nofun, by simp, by simp⟩
  have h19 := h18.step
    ⟨.worker () (.openSession ⟨0, 0⟩ rfl rfl rfl) nofun, by simp, by simp⟩
  have h20 := h19.step ⟨.worker () .setupConnectionId nofun, by simp, by simp⟩
  have h21 := h20.step
    ⟨.worker () .handleOpen nofun, by simp, fun _ _ _ h => h.elim nofun nofun⟩
  have h22 := h21.step ⟨.worker () (.enter rfl) nofun, by simp, by simp⟩
  have h23 := h22.step ⟨.worker () (.pop rfl) nofun, by simp, by simp⟩
  have h24 := h23.step ⟨.worker () (.messageBound rfl rfl) nofun, by simp, by simp⟩
  have h25 := h24.step ⟨.worker () .handleMessage nofun, by simp, by simp⟩
  have h26 := LoginsAfterErasure.loop h25 rfl (.createGame rfl rfl rfl)
  have h27 := LoginsAfterErasure.loop h26 rfl (.clearUpdates rfl)
  have h28 := LoginsAfterErasure.loop h27 rfl (.clearFinished rfl rfl)
  refine ⟨_, h28, rfl, ?_, ⟨[.running, .received (6 : Nat) "bob", .received (5 : Nat) "ada",
    .received (5 : Nat) "move", .took ⟨.inMessage, (6 : Nat), "bob", none⟩,
    .handleOpen ⟨(2 : Nat), (7 : Nat)⟩ (0 : Nat), .took ⟨.inMessage, (5 : Nat), "ada", none⟩],
    [.took ⟨.inMessage, (5 : Nat), "move", none⟩,
      .handleMessage ⟨(1 : Nat), (7 : Nat)⟩ "move"], rfl, ?_, ?_, ?_⟩, ?_⟩
  · show ((1 : Nat), "move") ∈ [((1 : Nat), "move")]
    exact List.mem_singleton.2 rfl
  · simp
  · simp
  · simp
  · rintro evs gs' - ⟨g, g', msgs, t, hg, hc, -⟩
    have hgame : some ⟨(0 : Nat), [.connect (2 : Nat)]⟩ = some g := hg
    cases hgame
    cases List.mem_singleton.1 hc

/-- Ada's connect is processed in the tick that runs her message, and the message is
delivered. -/
theorem messages_delivered_iff_connects_processed_login :
    ∃ gs gs' : GameServer natTraits Nat Unit, InBatch gs ⟨1, 7⟩ "move" ∧
      Delivered gs gs' ⟨1, 7⟩ "move" := by
  have h0 : ((gameServer natConfig natGame 0).restrict LoginsAfterErasure).Reachable
      (GameServer.start 0 : GameServer natTraits Nat Unit) := .init ⟨0, rfl⟩
  have h1 := h0.step ⟨.run (.run rfl), by simp, by simp⟩
  have h2 := h1.step ⟨.transport (.onMessage (5 : Nat) "ada"), by simp, by simp⟩
  have h3 := h2.step ⟨.transport (.onMessage (5 : Nat) "move"), by simp, by simp⟩
  have h4 := h3.step ⟨.worker () (.enter rfl) nofun, by simp, by simp⟩
  have h5 := h4.step ⟨.worker () (.pop rfl) nofun, by simp, by simp⟩
  have h6 := h5.step ⟨.worker () (.messageUnbound rfl rfl) nofun, by simp, by simp⟩
  have h7 := h6.step
    ⟨.worker () (.openSession ⟨0, 0⟩ rfl rfl rfl) nofun, by simp, by simp⟩
  have h8 := h7.step ⟨.worker () .setupConnectionId nofun, by simp, by simp⟩
  have h9 := h8.step
    ⟨.worker () .handleOpen nofun, by simp, fun _ _ _ h => h.elim nofun nofun⟩
  have h10 := h9.step ⟨.worker () (.enter rfl) nofun, by simp, by simp⟩
  have h11 := h10.step ⟨.worker () (.pop rfl) nofun, by simp, by simp⟩
  have h12 := h11.step ⟨.worker () (.messageBound rfl rfl) nofun, by simp, by simp⟩
  have h13 := h12.step ⟨.worker () .handleMessage nofun, by simp, by simp⟩
  have h14 := LoginsAfterErasure.loop h13 rfl (.enter 0 rfl rfl)
  have h15 := LoginsAfterErasure.loop h14 rfl (.noGames rfl rfl)
  have h16 := LoginsAfterErasure.loop h15 rfl (.pass rfl nofun)
  have h17 := LoginsAfterErasure.loop h16 rfl (.relock rfl)
  have h18 := LoginsAfterErasure.loop h17 rfl (.swapUpdates rfl (by decide))
  have h19 := LoginsAfterErasure.loop h18 rfl (.createGame rfl rfl rfl)
  have h20 := LoginsAfterErasure.loop h19 rfl (.clearUpdates rfl)
  have h21 := LoginsAfterErasure.loop h20 rfl (.clearFinished rfl rfl)
  have hbatch : ((1 : Nat), "move") ∈ [((1 : Nat), "move")] := List.mem_singleton.2 rfl
  have hdelivered := (messages_delivered_iff_connects_processed h21 rfl
    (.updateGames [(7 : Nat)] rfl (by decide) rfl)).2 (fun _ _ _ _ _ hm => nomatch hm) ⟨1, 7⟩
    "move" hbatch ⟨[.running, .received (5 : Nat) "ada", .received (5 : Nat) "move",
      .took ⟨.inMessage, (5 : Nat), "ada", none⟩], (0 : Nat),
      [.took ⟨.inMessage, (5 : Nat), "move", none⟩,
        .handleMessage ⟨(1 : Nat), (7 : Nat)⟩ "move"], rfl, by simp, by simp⟩
  refine ⟨_, _, ?_, hdelivered⟩
  exact hbatch

end WebGameServer
