import WebGameServer.MatchmakingServer.Erasure

namespace WebGameServer
set_option autoImplicit true

section Local

variable {T : Traits} {D Worker : Type} {cfg : Config T} {mm : Matchmaker T D}
  {timestep : Int} {ms ms' : MatchmakingServer T D Worker}

/-- The results that the sessions of a game are to get. -/
def MatchedGame.results (game : MatchedGame T) : List (T.SessionId × SessionData T) :=
  game.sessions.map fun sid => (sid, ⟨game.session, game.data⟩)

/-- The sessions that the tick has yet to complete, with their results. -/
def MatchPc.remaining : MatchPc T → List (T.SessionId × SessionData T)
  | .broadcasting _ games | .broadcastingTo _ _ _ _ games | .finishing games =>
    games.flatMap MatchedGame.results
  | .finishingGame game games | .ending _ game games =>
    game.results ++ games.flatMap MatchedGame.results
  | _ => []

theorem MatchPc.remaining_eq_nil (pc : MatchPc T) (h : pc.holdsSessions = false) :
    pc.remaining = [] := by
  cases pc <;> first | rfl | cases h

def MatchedGame.Apart (game game' : MatchedGame T) : Prop :=
  game.sessions.Disjoint game'.sessions

instance : Std.Symm (MatchedGame.Apart (T := T)) := ⟨fun _ _ h => h.symm⟩

/-- The games that `match` returns have pairwise disjoint sessions, drawn from its argument. -/
def Matchmaker.Draws (mm : Matchmaker T D) : Prop :=
  ∀ sessions deltaTime games msgs, mm.returns sessions deltaTime games msgs →
    games.Pairwise MatchedGame.Apart ∧
    ∀ game ∈ games, ∀ sid ∈ game.sessions, sid ∈ sessions.keys

theorem results_agree {games : List (MatchedGame T)}
    (h : games.Pairwise MatchedGame.Apart)
    (hx : x ∈ games.flatMap MatchedGame.results) (hy : y ∈ games.flatMap MatchedGame.results)
    (he : x.1 = y.1) : x.2 = y.2 := by
  obtain ⟨game, hg, hx⟩ := List.mem_flatMap.1 hx
  obtain ⟨game', hg', hy⟩ := List.mem_flatMap.1 hy
  obtain ⟨sid, hs, rfl⟩ := List.mem_map.1 hx
  obtain ⟨sid', hs', rfl⟩ := List.mem_map.1 hy
  cases he
  by_cases hgg : game = game'
  · rw [hgg]
  · exact (h.forall hg hg' hgg hs hs').elim

structure Agreed (ms : MatchmakingServer T D Worker) : Prop where
  agree : ∀ x ∈ ms.loop.remaining, ∀ y ∈ ms.loop.remaining, x.1 = y.1 → x.2 = y.2
  unended : ∀ x ∈ ms.loop.remaining, ¬ Completed ms.base.log x.1 ∨ Decided ms.base x.1 x.2
  emitted : ∀ game ∈ ms.emitted, ∀ x ∈ game.results,
    x ∈ ms.loop.remaining ∨ Decided ms.base x.1 x.2

theorem Agreed.advance (h : Agreed ms)
    (hdecided : ∀ sid r, Decided ms.base sid r → Decided ms'.base sid r)
    (hremaining : ms'.loop.remaining = ms.loop.remaining)
    (hcompleted : ∀ x ∈ ms.loop.remaining, Completed ms'.base.log x.1 →
      Completed ms.base.log x.1)
    (hemitted : ms'.emitted = ms.emitted) : Agreed ms' := by
  constructor
  · exact hremaining ▸ h.agree
  · intro x hx
    rw [hremaining] at hx
    exact (h.unended x hx).imp (mt (hcompleted x hx)) (hdecided _ _)
  · intro game hg x hx
    rw [hremaining]
    exact (h.emitted game (hemitted ▸ hg) x hx).imp_right (hdecided _ _)

theorem Agreed.matchSessions (h : Agreed ms) (hl : ms.loop = .matching t)
    (hdisjoint : games.Pairwise MatchedGame.Apart)
    (hfresh : ∀ game ∈ games, ∀ sid ∈ game.sessions, ¬ Completed ms.base.log sid) :
    Agreed { ms with emitted := ms.emitted ++ games, loop := .broadcasting msgs games } := by
  constructor
  · exact fun x hx y hy => results_agree hdisjoint hx hy
  · intro x hx
    obtain ⟨game, hg, hx⟩ := List.mem_flatMap.1 hx
    obtain ⟨sid, hs, rfl⟩ := List.mem_map.1 hx
    exact .inl (hfresh game hg sid hs)
  · intro game hg x hx
    rcases List.mem_append.1 hg with hg | hg
    · apply (h.emitted game hg x hx).imp_left
      intro hx
      rw [hl] at hx
      cases hx
    · exact .inl (List.mem_flatMap.2 ⟨game, hg, hx⟩)

theorem Agreed.endSession (h : Agreed ms)
    (hl : ms.loop = .finishingGame ⟨sid :: sids, gsid, data⟩ games)
    (hl' : ms'.loop = .ending sid ⟨sids, gsid, data⟩ games)
    (hemitted : ms'.emitted = ms.emitted)
    (hlog : ms'.base.log = ms.base.log ++ [.completing sid ⟨gsid, data⟩])
    (hdecided : ∀ sid r, Decided ms.base sid r → Decided ms'.base sid r)
    (hfirst : ¬ Completed ms.base.log sid → Decided ms'.base sid ⟨gsid, data⟩) :
    Agreed ms' := by
  have hremaining : ms.loop.remaining = (sid, ⟨gsid, data⟩) :: ms'.loop.remaining := by
    rw [hl, hl']
    rfl
  have hnow : Decided ms'.base sid ⟨gsid, data⟩ := by
    rcases h.unended _ (hremaining ▸ List.mem_cons_self) with hn | hd
    · exact hfirst hn
    · exact hdecided _ _ hd
  have hrest : ∀ x ∈ ms'.loop.remaining, x ∈ ms.loop.remaining :=
    fun x hx => hremaining ▸ List.mem_cons_of_mem _ hx
  constructor
  · exact fun x hx y hy => h.agree x (hrest x hx) y (hrest y hy)
  · intro x hx
    by_cases hs : x.1 = sid
    · have he := h.agree x (hrest x hx) _ (hremaining ▸ List.mem_cons_self) hs
      exact .inr (by rw [hs, he]; exact hnow)
    · apply (h.unended x (hrest x hx)).imp ?_ (hdecided _ _)
      intro hn hc
      rw [hlog] at hc
      rcases hc.of_append with hc | ⟨r, hm⟩
      · exact hn hc
      · cases List.mem_singleton.1 hm
        exact hs rfl
  · intro game hg x hx
    rcases h.emitted game (hemitted ▸ hg) x hx with hx | hd
    · rw [hremaining] at hx
      rcases List.mem_cons.1 hx with rfl | hx
      · exact .inr hnow
      · exact .inl hx
    · exact .inr (hdecided _ _ hd)

end Local

section Run

variable {T : Traits} {D Worker : Type} [DecidableEq Worker] {cfg : Config T}
  {mm : Matchmaker T D} {timestep : Int} {ms ms' : MatchmakingServer T D Worker}

/-- Moreover, no session of a game that `match` returns was completed earlier in the tick. -/
structure OffersUnended (ms : MatchmakingServer T D Worker) (evs : List (Event T))
    (ms' : MatchmakingServer T D Worker) : Prop extends Unstopped ms evs ms' where
  offers : ∀ t games msgs, ms.loop = .matching t → ms'.loop = .broadcasting msgs games →
    ∀ game ∈ games, ∀ sid ∈ game.sessions, sid ∉ ms.finishedSessions.1

omit [DecidableEq Worker] in
theorem Clean.unended (h : Clean ms) (hl : ms.loop = .matching t)
    (hk : sid ∈ ms.sessionData.keys) (hn : sid ∉ ms.finishedSessions.1) :
    ¬ Completed ms.base.log sid := by
  intro hc
  obtain ⟨d, hd⟩ := (Map.mem_keys_iff _).1 hk
  rcases h.sessions sid d hd hc with he | he | he
  · exact hn he
  · rw [h.second (by rw [hl]; rfl)] at he
    cases he
  · rw [hl] at he
    cases he

theorem MatchmakingStep.decided (h : MatchmakingStep cfg mm timestep ms evs ms')
    (hf : Unstopped ms evs ms') (hl : SessionLocking ms.base) (hd : Decided ms.base sid r) :
    Decided ms'.base sid r := by
  rcases h.project hf.running with ⟨-, he⟩ | hb
  · exact he ▸ hd
  · exact hd.step hl hb (hf.locks sid)

theorem MatchStep.agreed (h : MatchStep cfg mm timestep ms evs ms') (hs : Agreed ms)
    (hmm : mm.Draws) (hclean : Clean ms) (hf : OffersUnended ms evs ms')
    (hidle : ms.base.caller () = .idle)
    (hr : (baseServer cfg).Reachable ms.base) : Agreed ms' := by
  have hdecided : ∀ sid r, Decided ms.base sid r → Decided ms'.base sid r := fun _ _ =>
    MatchmakingStep.decided (.loop hidle h) hf.toUnstopped (sessionLocking_invariant.reachable hr)
  have move (hl : ms'.loop.remaining = ms.loop.remaining) (hb : ms'.base = ms.base)
      (he : ms'.emitted = ms.emitted) : Agreed ms' :=
    hs.advance hdecided hl (fun _ _ => hb ▸ id) he
  have hcall := h.project hidle
  cases h with
  | enter hl hr | exit hl hr | canMatch hl | cannotMatch hl | wait hl hu | pass hl hu
  | wakeStopped hl hr | wake hl hr hu | recheck hl hr hu | relock hl | sleep t hl ht
  | swapUpdates t hl ht | eraseCancelled hl | disconnectIgnored hl hd | insertPlayer hl hd
  | createSession hl hd hv | pushRejected hl | clearUpdates hl | broadcast hl | sent hl
  | broadcastDone hl | takeGame hl | pushFinished hl | gameDone hl | finish hl =>
    exact move (by rw [hl]; rfl) rfl rfl
  | eraseFinished hl =>
    rw [MatchmakingServer.eraseFinished_eq] at move ⊢
    exact move (by rw [hl]; rfl) rfl rfl
  | cancelSession hl hd hc | rejectData hl hd hv hc =>
    apply hs.advance hdecided (by rw [hl]; rfl) ?_ rfl
    intro x hx
    rw [hl] at hx
    cases hx
  | matchSessions games msgs hl hm =>
    obtain ⟨hdisjoint, hdrawn⟩ := hmm _ _ _ _ hm
    exact hs.matchSessions hl hdisjoint fun game hg sid hsid =>
      hclean.unended hl (hdrawn game hg sid hsid) (hf.offers _ _ _ hl rfl game hg sid hsid)
  | sendMessage pid hl hm hi hc | sendIgnored pid hl hm hi hc =>
    apply hs.advance hdecided (by rw [hl]; rfl) ?_ rfl
    intro x _ hc
    apply hc.of_append.resolve_right fun ⟨r, hm⟩ => ?_
    cases List.mem_singleton.1 hm
  | endSession hl hc =>
    refine hs.endSession hl rfl rfl rfl hdecided fun hn => ?_
    rcases hcall with ⟨he, -⟩ | hb
    · cases he
    · exact hb.decides_first hr (List.mem_singleton.2 rfl) hn

theorem agreed_invariant (hmm : mm.Draws) :
    ((matchmakingServer cfg mm timestep).restrict OffersUnended).Invariant
      fun ms : MatchmakingServer T D Worker => Agreed ms where
  init := by
    intro ms hinit
    obtain ⟨t, rfl⟩ := hinit
    exact ⟨nofun, nofun, nofun⟩
  step {ms evs ms'} hr hs h := by
    obtain ⟨h, hf⟩ := h
    have hr' := hr.weaken fun _ _ h => h.toUnstopped
    have hbase := (unstopped_project hr').of_restrict
    have hdecided : ∀ sid r, Decided ms.base sid r → Decided ms'.base sid r := fun _ _ =>
      h.decided hf.toUnstopped (sessionLocking_invariant.reachable hbase)
    have outer (hevs : ∀ sid r, .completing sid r ∉ evs) (hl : ms'.loop = ms.loop)
        (he : ms'.emitted = ms.emitted) : Agreed ms' := by
      apply hs.advance hdecided (by rw [hl]) ?_ he
      intro x _ hc
      rw [h.log hf.running] at hc
      exact hc.of_append.resolve_right fun ⟨r, hm⟩ => hevs _ r hm
    cases h with
    | transport h | worker w h hfree => exact outer (fun sid r => h.no_completing) rfl rfl
    | loop hidle h =>
      exact h.agreed hs hmm (clean_invariant.reachable hr') hf hidle hbase
    | call hbusy h => exact outer (fun sid r => h.busy_no_completing hbusy) rfl rfl
    | run h => exact outer (fun sid r => h.no_completing) rfl rfl
    | stop h => cases h <;> exact (hf.running List.mem_cons_self).elim

omit [DecidableEq Worker] in
theorem locked_of_decided (hidle : ms.base.caller () = .idle) (hd : Decided ms.base sid r) :
    ms.base.server.lockedSessions.at? sid = some r := by
  rcases hd with hd | ⟨c, hd⟩
  · exact hd
  · rw [hidle] at hd
    cases hd

theorem MatchmakingStep.keeps_locked (h : MatchmakingStep cfg mm timestep ms evs ms')
    (hf : Unstopped ms evs ms') (hl : SessionLocking ms.base)
    (hr : ms.base.server.lockedSessions.at? sid = some r) :
    ms'.base.server.lockedSessions.at? sid = some r := by
  rcases h.project hf.running with ⟨-, he⟩ | hb
  · rwa [he]
  · obtain ⟨r', hr'⟩ := Option.ne_none_iff_exists'.1 (hf.locks sid (by rw [hr]; exact nofun))
    rwa [Decided.unique hl (.inl hr) (hb.decided_before hl hr')]

/-- Without `stop` and the release of locks, and as long as `match` returns no session that
was completed earlier in the same tick: from the end of the tick on that emits a game, every
session of the game has the result of the game stored. -/
theorem matched_sessions_agree (hmm : mm.Draws)
    (hms : ((matchmakingServer cfg mm timestep).restrict OffersUnended).Reachable ms)
    (hl : ms.loop.holdsSessions = false) (hg : game ∈ ms.emitted) (hs : sid ∈ game.sessions)
    (hrun : ((matchmakingServer cfg mm timestep).restrict Unstopped).Run ms ls ms') :
    ms'.base.server.lockedSessions.at? sid = some ⟨game.session, game.data⟩ := by
  have hms' := hms.weaken fun _ _ h => h.toUnstopped
  have hagreed := (agreed_invariant hmm).reachable hms
  have hlocked : ms.base.server.lockedSessions.at? sid = some ⟨game.session, game.data⟩ := by
    have hx : (sid, ⟨game.session, game.data⟩) ∈ game.results := List.mem_map.2 ⟨sid, hs, rfl⟩
    apply locked_of_decided (idle_invariant.reachable hms.of_restrict hl)
      ((hagreed.emitted game hg _ hx).resolve_left fun hm => ?_)
    rw [ms.loop.remaining_eq_nil hl] at hm
    cases hm
  refine (hrun.preserves (I := fun ms => ms.base.server.lockedSessions.at? sid =
    some ⟨game.session, game.data⟩) (P := fun _ => True) hms' (fun hu hlu hstep => ?_) hlocked).1
  have hlocking := sessionLocking_invariant.reachable (unstopped_project hu).of_restrict
  exact ⟨hstep.1.keeps_locked hstep.2 hlocking hlu, trivial⟩

theorem Unstopped.loop
    (h : ((matchmakingServer cfg mm timestep).restrict Unstopped).Reachable ms)
    (hidle : ms.base.caller () = .idle) (hs : MatchStep cfg mm timestep ms [] ms') :
    ((matchmakingServer cfg mm timestep).restrict Unstopped).Reachable ms' :=
  h.step ⟨.loop hidle hs, .quiet hs⟩

end Run

/-- A matchmaker for which data 0 is valid, and which returns any disjoint games of its
sessions. -/
def natMatchmaker : Matchmaker natTraits Nat where
  construct data := data
  isValid d := d = 0
  getCancelData := 0
  returns sessions _ games _ :=
    games.Pairwise MatchedGame.Apart ∧ ∀ game ∈ games, ∀ sid ∈ game.sessions, sid ∈ sessions.keys

theorem natMatchmaker_draws : natMatchmaker.Draws := fun _ _ _ _ h => h

/-- In one batch Ada connects and leaves, Bob connects to the same session 7 and Zoe to
session 8: session 7 is cancelled and is then matched with session 8, which is told to join a
game that session 7 is not told of. -/
theorem cancelled_session_is_matched :
    ∃ (ms : MatchmakingServer natTraits Nat Unit) (game : MatchedGame natTraits),
      ((matchmakingServer natConfig natMatchmaker 0).restrict Unstopped).Reachable ms ∧
      ms.loop = .testing ∧ game ∈ ms.emitted ∧ game.sessions = [7, 8] ∧
      ms.base.server.lockedSessions.at? 7 = some ⟨7, 0⟩ ∧
      ms.base.server.lockedSessions.at? 8 = some ⟨100, 1⟩ ∧
      game.session = 100 ∧ game.data = 1 := by
  have h0 : ((matchmakingServer natConfig natMatchmaker 0).restrict Unstopped).Reachable
      (MatchmakingServer.start 0 : MatchmakingServer natTraits Nat Unit) := .init ⟨0, rfl⟩
  have h1 := h0.step ⟨.run (.run rfl), by simp, fun _ => id⟩
  have h2 := h1.step ⟨.transport (.onMessage (5 : Nat) "ada"), by simp, fun _ => id⟩
  have h3 := h2.step ⟨.transport (.onMessage (5 : Nat) "leave"), by simp, fun _ => id⟩
  have h4 := h3.step ⟨.transport (.onMessage (6 : Nat) "bob"), by simp, fun _ => id⟩
  have h5 := h4.step ⟨.transport (.onMessage (8 : Nat) "zoe"), by simp, fun _ => id⟩
  have h6 := h5.step ⟨.worker () (.enter rfl) nofun, by simp, fun _ => id⟩
  have h7 := h6.step ⟨.worker () (.pop rfl) nofun, by simp, fun _ => id⟩
  have h8 := h7.step ⟨.worker () (.messageUnbound rfl rfl) nofun, by simp, fun _ => id⟩
  have h9 := h8.step ⟨.worker () (.openSession ⟨0, 0⟩ rfl rfl rfl) nofun, by simp, fun _ => id⟩
  have h10 := h9.step ⟨.worker () .setupConnectionId nofun, by simp, fun _ => id⟩
  have h11 := h10.step ⟨.worker () .handleOpen nofun, by simp, fun _ => id⟩
  have h12 := h11.step ⟨.worker () (.enter rfl) nofun, by simp, fun _ => id⟩
  have h13 := h12.step ⟨.worker () (.pop rfl) nofun, by simp, fun _ => id⟩
  have h14 := h13.step ⟨.worker () (.messageBound rfl rfl) nofun, by simp, fun _ => id⟩
  have h15 := h14.step ⟨.worker () .handleMessage nofun, by simp, fun _ => id⟩
  have h16 := h15.step ⟨.worker () (.enter rfl) nofun, by simp, fun _ => id⟩
  have h17 := h16.step ⟨.worker () (.pop rfl) nofun, by simp, fun _ => id⟩
  have h18 := h17.step ⟨.worker () (.messageUnbound rfl rfl) nofun, by simp, fun _ => id⟩
  have h19 := h18.step
    ⟨.worker () (.openSession ⟨0, 0⟩ rfl rfl rfl) nofun, by simp, fun _ => id⟩
  have h20 := h19.step ⟨.worker () .setupConnectionId nofun, by simp, fun _ => id⟩
  have h21 := h20.step ⟨.worker () .handleOpen nofun, by simp, fun _ => id⟩
  have h22 := h21.step ⟨.worker () (.enter rfl) nofun, by simp, fun _ => id⟩
  have h23 := h22.step ⟨.worker () (.pop rfl) nofun, by simp, fun _ => id⟩
  have h24 := h23.step ⟨.worker () (.messageUnbound rfl rfl) nofun, by simp, fun _ => id⟩
  have h25 := h24.step
    ⟨.worker () (.openSession ⟨0, 0⟩ rfl rfl rfl) nofun, by simp, fun _ => id⟩
  have h26 := h25.step ⟨.worker () .setupConnectionId nofun, by simp, fun _ => id⟩
  have h27 := h26.step ⟨.worker () .handleOpen nofun, by simp, fun _ => id⟩
  have h28 := Unstopped.loop h27 rfl (.enter rfl rfl)
  have h29 := Unstopped.loop h28 rfl (.canMatch rfl)
  have h30 := Unstopped.loop h29 rfl (.swapUpdates 0 rfl (by decide))
  have h31 := Unstopped.loop h30 rfl (.createSession rfl rfl rfl)
  have h32 := h31.step
    ⟨.loop rfl (.cancelSession rfl rfl (.completeSession ⟨0, 0⟩ _ _ rfl rfl)), by simp,
      fun _ => id⟩
  have h33 := h32.step ⟨.call nofun (.findPlayer (1 : Nat) (by decide) rfl), by simp, fun _ => id⟩
  have h34 := h33.step ⟨.call nofun .closePlayer, by simp, fun _ => id⟩
  have h35 := h34.step ⟨.call nofun (.findPlayer (2 : Nat) (by decide) rfl), by simp, fun _ => id⟩
  have h36 := h35.step ⟨.call nofun .closePlayer, by simp, fun _ => id⟩
  have h37 := h36.step ⟨.call nofun .lockSession, by simp, fun _ h => (h rfl).elim⟩
  have h38 := Unstopped.loop h37 rfl (.eraseCancelled rfl)
  have h39 := Unstopped.loop h38 rfl (.createSession rfl rfl rfl)
  have h40 := Unstopped.loop h39 rfl (.createSession rfl rfl rfl)
  have h41 := Unstopped.loop h40 rfl (.clearUpdates rfl)
  have h42 := Unstopped.loop h41 rfl (.eraseFinished rfl)
  have h43 := Unstopped.loop h42 rfl
    (.matchSessions [⟨[(7 : Nat), (8 : Nat)], (100 : Nat), (1 : Nat)⟩] [] rfl
      ⟨List.pairwise_singleton _ _, List.forall_mem_singleton.2 (List.forall_mem_cons.2
        ⟨(Map.mem_keys_iff _).2 ⟨(0 : Nat), rfl⟩,
          List.forall_mem_singleton.2 ((Map.mem_keys_iff _).2 ⟨(0 : Nat), rfl⟩)⟩)⟩)
  have h44 := Unstopped.loop h43 rfl (.broadcastDone rfl)
  have h45 := Unstopped.loop h44 rfl (.takeGame rfl)
  have h46 := h45.step
    ⟨.loop rfl (.endSession rfl (.completeLocked ⟨0, 0⟩ _ _ rfl rfl)), by simp, fun _ => id⟩
  have h47 := Unstopped.loop h46 rfl (.pushFinished rfl)
  have h48 := h47.step
    ⟨.loop rfl (.endSession rfl (.completeSession ⟨0, 0⟩ _ _ rfl rfl)), by simp, fun _ => id⟩
  have h49 := h48.step ⟨.call nofun (.findPlayer (4 : Nat) (by decide) rfl), by simp, fun _ => id⟩
  have h50 := h49.step ⟨.call nofun .closePlayer, by simp, fun _ => id⟩
  have h51 := h50.step
    ⟨.call nofun .lockSession, by simp, fun _ => Server.locked_lockSession _ rfl⟩
  have h52 := Unstopped.loop h51 rfl (.pushFinished rfl)
  have h53 := Unstopped.loop h52 rfl (.gameDone rfl)
  have h54 := Unstopped.loop h53 rfl (.finish rfl)
  exact ⟨_, _, h54, rfl, List.mem_singleton.2 rfl, rfl, rfl, rfl, rfl, rfl⟩

/-- Ada and Zoe are matched, and both sessions get the result of their game. -/
theorem matched_sessions_agree_login :
    ∃ ms : MatchmakingServer natTraits Nat Unit, ms.loop = .testing ∧
      ms.base.server.lockedSessions.at? 7 = some ⟨100, 1⟩ ∧
      ms.base.server.lockedSessions.at? 8 = some ⟨100, 1⟩ := by
  have go {ms ms' : MatchmakingServer natTraits Nat Unit} {evs : List (Event natTraits)}
      (h : ((matchmakingServer natConfig natMatchmaker 0).restrict OffersUnended).Reachable ms)
      (hs : MatchmakingStep natConfig natMatchmaker 0 ms evs ms') (hu : Unstopped ms evs ms')
      (he : ∀ t, ms.loop = .matching t → ms.finishedSessions.1 = []) :
      ((matchmakingServer natConfig natMatchmaker 0).restrict OffersUnended).Reachable ms' := by
    apply h.step ⟨hs, hu, fun t games msgs hl _ game _ sid _ => ?_⟩
    rw [he t hl]
    exact List.not_mem_nil
  have tick {ms ms' : MatchmakingServer natTraits Nat Unit}
      (h : ((matchmakingServer natConfig natMatchmaker 0).restrict OffersUnended).Reachable ms)
      (hidle : ms.base.caller () = .idle) (hs : MatchStep natConfig natMatchmaker 0 ms [] ms')
      (he : ∀ t, ms.loop = .matching t → ms.finishedSessions.1 = []) :
      ((matchmakingServer natConfig natMatchmaker 0).restrict OffersUnended).Reachable ms' :=
    go h (.loop hidle hs) (.quiet hs) he
  have h0 : ((matchmakingServer natConfig natMatchmaker 0).restrict OffersUnended).Reachable
      (MatchmakingServer.start 0 : MatchmakingServer natTraits Nat Unit) := .init ⟨0, rfl⟩
  have h1 := go h0 (.run (.run rfl)) ⟨by simp, fun _ => id⟩ nofun
  have h2 := go h1 (.transport (.onMessage (5 : Nat) "ada")) ⟨by simp, fun _ => id⟩ nofun
  have h3 := go h2 (.transport (.onMessage (8 : Nat) "zoe")) ⟨by simp, fun _ => id⟩ nofun
  have h4 := go h3 (.worker () (.enter rfl) nofun) ⟨by simp, fun _ => id⟩ nofun
  have h5 := go h4 (.worker () (.pop rfl) nofun) ⟨by simp, fun _ => id⟩ nofun
  have h6 := go h5 (.worker () (.messageUnbound rfl rfl) nofun) ⟨by simp, fun _ => id⟩ nofun
  have h7 := go h6 (.worker () (.openSession ⟨0, 0⟩ rfl rfl rfl) nofun) ⟨by simp, fun _ => id⟩ nofun
  have h8 := go h7 (.worker () .setupConnectionId nofun) ⟨by simp, fun _ => id⟩ nofun
  have h9 := go h8 (.worker () .handleOpen nofun) ⟨by simp, fun _ => id⟩ nofun
  have h10 := go h9 (.worker () (.enter rfl) nofun) ⟨by simp, fun _ => id⟩ nofun
  have h11 := go h10 (.worker () (.pop rfl) nofun) ⟨by simp, fun _ => id⟩ nofun
  have h12 := go h11 (.worker () (.messageUnbound rfl rfl) nofun) ⟨by simp, fun _ => id⟩ nofun
  have h13 := go h12 (.worker () (.openSession ⟨0, 0⟩ rfl rfl rfl) nofun)
    ⟨by simp, fun _ => id⟩ nofun
  have h14 := go h13 (.worker () .setupConnectionId nofun) ⟨by simp, fun _ => id⟩ nofun
  have h15 := go h14 (.worker () .handleOpen nofun) ⟨by simp, fun _ => id⟩ nofun
  have h16 := tick h15 rfl (.enter rfl rfl) nofun
  have h17 := tick h16 rfl (.canMatch rfl) nofun
  have h18 := tick h17 rfl (.swapUpdates 0 rfl (by decide)) nofun
  have h19 := tick h18 rfl (.createSession rfl rfl rfl) nofun
  have h20 := tick h19 rfl (.createSession rfl rfl rfl) nofun
  have h21 := tick h20 rfl (.clearUpdates rfl) nofun
  have h22 := tick h21 rfl (.eraseFinished rfl) nofun
  have h23 := tick h22 rfl
    (.matchSessions [⟨[(7 : Nat), (8 : Nat)], (100 : Nat), (1 : Nat)⟩] [] rfl
      ⟨List.pairwise_singleton _ _, List.forall_mem_singleton.2 (List.forall_mem_cons.2
        ⟨(Map.mem_keys_iff _).2 ⟨(0 : Nat), rfl⟩,
          List.forall_mem_singleton.2 ((Map.mem_keys_iff _).2 ⟨(0 : Nat), rfl⟩)⟩)⟩) fun _ _ => rfl
  have h24 := tick h23 rfl (.broadcastDone rfl) nofun
  have h25 := tick h24 rfl (.takeGame rfl) nofun
  have h26 := go h25 (.loop rfl (.endSession rfl (.completeSession ⟨0, 0⟩ _ _ rfl rfl)))
    ⟨by simp, fun _ => id⟩ nofun
  have h27 := go h26 (.call nofun (.findPlayer (1 : Nat) (by decide) rfl))
    ⟨by simp, fun _ => id⟩ nofun
  have h28 := go h27 (.call nofun .closePlayer) ⟨by simp, fun _ => id⟩ nofun
  have h29 := go h28 (.call nofun .lockSession)
    ⟨by simp, fun _ => Server.locked_lockSession _ rfl⟩ nofun
  have h30 := tick h29 rfl (.pushFinished rfl) nofun
  have h31 := go h30 (.loop rfl (.endSession rfl (.completeSession ⟨0, 0⟩ _ _ rfl rfl)))
    ⟨by simp, fun _ => id⟩ nofun
  have h32 := go h31 (.call nofun (.findPlayer (4 : Nat) (by decide) rfl))
    ⟨by simp, fun _ => id⟩ nofun
  have h33 := go h32 (.call nofun .closePlayer) ⟨by simp, fun _ => id⟩ nofun
  have h34 := go h33 (.call nofun .lockSession)
    ⟨by simp, fun _ => Server.locked_lockSession _ rfl⟩ nofun
  have h35 := tick h34 rfl (.pushFinished rfl) nofun
  have h36 := tick h35 rfl (.gameDone rfl) nofun
  have h37 := tick h36 rfl (.finish rfl) nofun
  exact ⟨_, rfl,
    matched_sessions_agree natMatchmaker_draws h37 rfl (List.mem_singleton.2 rfl)
      List.mem_cons_self .nil,
    matched_sessions_agree natMatchmaker_draws h37 rfl (List.mem_singleton.2 rfl)
      (List.mem_cons_of_mem _ List.mem_cons_self) .nil⟩

end WebGameServer
