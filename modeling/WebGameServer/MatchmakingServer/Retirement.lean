import WebGameServer.MatchmakingServer.Agreement

namespace WebGameServer
set_option autoImplicit true

section Local

variable {T : Traits} {D Worker : Type} {cfg : Config T} {mm : Matchmaker T D}
  {timestep : Int} {ms ms' : MatchmakingServer T D Worker} {sid : T.SessionId}

def MatchPc.beforeSwap : MatchPc T → Bool
  | .testing | .returned | .locking | .checking | .waiting | .relocking | .timing => true
  | _ => false

def MatchmakingServer.Gone (ms : MatchmakingServer T D Worker) (sid : T.SessionId) : Prop :=
  ms.sessionData.lookup sid = none ∧
    ∀ cid data, .connection cid data ∈ ms.unprocessed → cid.session ≠ sid

/-- The session is gone, or the tick in progress is about to erase whatever the connects that
were queued before its completion create. -/
def MatchmakingServer.Retired (ms : MatchmakingServer T D Worker) (sid : T.SessionId) : Prop :=
  ms.Gone sid ∨ (sid ∈ ms.finishedSessions.1 ∧ (ms.loop.beforeSwap = true ∨
    (ms.loop.beforeErasure = true ∧
      ∀ cid data, .connection cid data ∈ ms.connectionUpdates.1 → cid.session ≠ sid)))

theorem MatchPc.between_ticks {pc : MatchPc T} (h : pc.holdsSessions = false) :
    pc.beforeSwap = true ∧ pc.beforeErasure = false ∧ pc.ended = none := by
  cases pc <;> first | exact ⟨rfl, rfl, rfl⟩ | cases h

/-- After a tick every session that was passed to `complete_session` is retired. -/
theorem Clean.retired (h : Clean ms) (hl : ms.loop.holdsSessions = false)
    (hc : Completed ms.base.log sid) : ms.Retired sid := by
  obtain ⟨hbefore, herasure, hended⟩ := MatchPc.between_ticks hl
  have hfirst (he : ms.Ended sid) : ms.Retired sid := by
    rcases he with he | he | he
    · exact .inr ⟨he, .inl hbefore⟩
    · rw [h.second herasure] at he
      cases he
    · rw [hended] at he
      cases he
  by_cases he : ms.Ended sid
  · exact hfirst he
  · refine .inl ⟨?_, fun cid data hm hs => he (hs ▸ h.queued cid data hm (hs ▸ hc))⟩
    cases hd : ms.sessionData.lookup sid with
    | none => rfl
    | some d => exact (he (h.sessions sid d hd hc)).elim

theorem MatchmakingServer.Retired.advance (h : ms.Retired sid)
    (hsessions : ms.sessionData.lookup sid = none → ms'.sessionData.lookup sid = none)
    (htodo : ms'.loop.todo ⊆ ms.loop.todo)
    (hfirst : ∀ cid data, .connection cid data ∈ ms'.connectionUpdates.1 →
      .connection cid data ∈ ms.connectionUpdates.1 ∨ cid.session ≠ sid)
    (hfinished : ms.finishedSessions.1 ⊆ ms'.finishedSessions.1)
    (hswap : ms.loop.beforeSwap = true → ms'.loop.beforeSwap = true)
    (herasure : ms.loop.beforeErasure = true → ms'.loop.beforeErasure = true) :
    ms'.Retired sid := by
  rcases h with ⟨hd, hq⟩ | ⟨hm, hb⟩
  · refine .inl ⟨hsessions hd, fun cid data hu => ?_⟩
    rcases List.mem_append.1 hu with hu | hu
    · exact hq cid data (List.mem_append_left _ (htodo hu))
    · exact (hfirst cid data hu).elim (fun hu => hq cid data (List.mem_append_right _ hu)) id
  · refine .inr ⟨hfinished hm, hb.imp hswap fun ⟨hb, hq⟩ => ⟨herasure hb, fun cid data hu => ?_⟩⟩
    exact (hfirst cid data hu).elim (hq cid data) id

theorem MatchmakingServer.Retired.swapUpdates (h : ms.Retired sid) (hc : Clean ms)
    (hl : ms.loop = .timing) :
    MatchmakingServer.Retired
      { ms.swapUpdates with loop := .connecting t ms.connectionUpdates.1 } sid := by
  have hsecond : ms.connectionUpdates.2 = [] := hc.cleared (by rw [hl]; rfl)
  rcases h with ⟨hd, hq⟩ | ⟨hm, -⟩
  · refine .inl ⟨hd, fun cid data hu => hq cid data ?_⟩
    simp only [unprocessed, hl, MatchPc.todo, MatchmakingServer.swapUpdates, hsecond,
      List.append_nil, List.nil_append] at hu ⊢
    exact hu
  · refine .inr ⟨hm, .inr ⟨rfl, fun cid data hu => ?_⟩⟩
    simp only [MatchmakingServer.swapUpdates, hsecond, List.not_mem_nil] at hu

theorem MatchmakingServer.Retired.createSession (h : ms.Retired sid)
    (hl : ms.loop = .connecting t (.connection cid data :: todo)) (d : D) :
    MatchmakingServer.Retired { ms.createSession cid d with loop := .connecting t todo } sid := by
  rcases h with ⟨hd, hq⟩ | ⟨hm, hb | ⟨-, hq⟩⟩
  · simp only [unprocessed, hl, MatchPc.todo, List.cons_append] at hq
    refine .inl ⟨?_, fun cid' data' hu => hq cid' data' (List.mem_cons_of_mem _ hu)⟩
    have hne : sid ≠ cid.session := (hq cid data List.mem_cons_self).symm
    simp only [MatchmakingServer.createSession, Map.lookup_emplace, if_neg hne]
    exact hd
  · rw [hl] at hb
    cases hb
  · exact .inr ⟨hm, .inr ⟨rfl, hq⟩⟩

theorem MatchmakingServer.Retired.eraseFinished (h : ms.Retired sid) (hl : ms.loop = .erasing t) :
    MatchmakingServer.Retired { ms.eraseFinished with loop := .matching t } sid := by
  have hlookup : ms.eraseFinished.sessionData.lookup sid = _ :=
    ms.lookup_foldl_eraseSession ms.finishedSessions.1 sid
  rw [MatchmakingServer.eraseFinished_eq]
  refine .inl ⟨hlookup.trans ?_, fun cid data hu => ?_⟩
  · rcases h with ⟨hd, -⟩ | ⟨hm, -⟩
    · rw [hd, ite_self]
    · rw [if_pos hm]
  · rcases h with ⟨-, hq⟩ | ⟨-, hb | ⟨-, hq⟩⟩
    · exact hq cid data (List.mem_append_right _ hu)
    · rw [hl] at hb
      cases hb
    · exact hq cid data hu

theorem MatchStep.retired (h : MatchStep cfg mm timestep ms evs ms') (hc : Clean ms)
    (hr : ms.Retired sid) : ms'.Retired sid := by
  have move {ms₁ : MatchmakingServer T D Worker}
      (hd : ms₁.sessionData = ms.sessionData) (ht : ms₁.loop.todo ⊆ ms.loop.todo)
      (hu : ms₁.connectionUpdates.1 = ms.connectionUpdates.1)
      (hf : ms.finishedSessions.1 ⊆ ms₁.finishedSessions.1)
      (hs : ms.loop.beforeSwap = true → ms₁.loop.beforeSwap = true)
      (hb : ms.loop.beforeErasure = true → ms₁.loop.beforeErasure = true) : ms₁.Retired sid :=
    hr.advance (fun hn => hd ▸ hn) ht (fun _ _ hm => .inl (hu ▸ hm)) hf hs hb
  have hsame := List.Subset.refl ms.finishedSessions.1
  cases h with
  | enter hl hr | exit hl hr | canMatch hl | cannotMatch hl | wait hl hu | pass hl hu
  | wakeStopped hl hr | wake hl hr hu | recheck hl hr hu | relock hl | sleep t hl ht
  | matchSessions games msgs hl hm | broadcast hl | sendMessage pid hl hm hi hc
  | sendIgnored pid hl hm hi hc | sent hl | broadcastDone hl | takeGame hl | endSession hl hc
  | gameDone hl =>
    refine move rfl (List.nil_subset _) rfl hsame ?_ ?_ <;> rw [hl] <;> exact id
  | finish hl =>
    refine move rfl (List.nil_subset _) rfl hsame ?_ ?_ <;> rw [hl] <;> exact Bool.noConfusion
  | pushFinished hl =>
    refine move rfl (List.nil_subset _) rfl (List.subset_append_left _ _) ?_ ?_ <;> rw [hl] <;>
      exact Bool.noConfusion
  | swapUpdates t hl ht => exact hr.swapUpdates hc hl
  | cancelSession hl hd hcall | rejectData hl hd hv hcall | disconnectIgnored hl hd
  | insertPlayer hl hd =>
    refine move rfl ?_ rfl hsame ?_ ?_ <;> rw [hl]
    · exact List.subset_cons_self _ _
    · exact id
    · exact id
  | eraseCancelled hl =>
    refine hr.advance (fun hn => ?_) ?_ (fun _ _ => .inl) hsame ?_ ?_ <;> try rw [hl]
    · simp only [MatchmakingServer.eraseSession, Map.lookup_erase_ite, hn, ite_self]
    · exact fun _ => id
    · exact id
    · exact id
  | createSession hl hd hv => exact hr.createSession hl _
  | pushRejected hl =>
    refine move rfl ?_ rfl hsame ?_ ?_ <;> rw [hl]
    · exact fun _ => id
    · exact id
    · exact id
  | clearUpdates hl =>
    refine move rfl (List.nil_subset _) rfl hsame ?_ ?_ <;> rw [hl] <;> exact id
  | eraseFinished hl => exact hr.eraseFinished hl

/-- The sessions of the emitted games are completed, or will be in the tick in progress. -/
def CompletesGames (ms : MatchmakingServer T D Worker) : Prop :=
  ∀ game ∈ ms.emitted, ∀ x ∈ game.results,
    x ∈ ms.loop.remaining ∨ Completed ms.base.log x.1

theorem CompletesGames.advance (h : CompletesGames ms) (hlog : ms.base.log ⊆ ms'.base.log)
    (hremaining : ms'.loop.remaining = ms.loop.remaining) (hemitted : ms'.emitted = ms.emitted) :
    CompletesGames ms' := by
  intro game hg x hx
  rw [hremaining]
  exact (h game (hemitted ▸ hg) x hx).imp_right fun ⟨r, hm⟩ => ⟨r, hlog hm⟩

theorem MatchStep.completesGames (h : MatchStep cfg mm timestep ms evs ms')
    (hs : CompletesGames ms) : CompletesGames ms' := by
  have hlog := List.subset_append_left ms.base.log evs
  cases h with
  | eraseFinished hl =>
    rw [MatchmakingServer.eraseFinished_eq]
    exact hs.advance (fun _ => id) (by rw [hl]; rfl) rfl
  | matchSessions games msgs hl hm =>
    intro game hg x hx
    rcases List.mem_append.1 hg with hg | hg
    · apply (hs game hg x hx).imp_left
      intro hm
      rw [hl] at hm
      cases hm
    · exact .inl (List.mem_flatMap.2 ⟨game, hg, hx⟩)
  | cancelSession hl hd hc | rejectData hl hd hv hc | sendMessage pid hl hm hi hc
  | sendIgnored pid hl hm hi hc => exact hs.advance hlog (by rw [hl]; rfl) rfl
  | endSession hl hc =>
    intro game hg x hx
    rcases hs game hg x hx with hm | ⟨r, hm⟩
    · rw [hl] at hm
      rcases List.mem_cons.1 hm with rfl | hm
      · exact .inr ⟨_, List.mem_append_right _ (List.mem_singleton.2 rfl)⟩
      · exact .inl hm
    · exact .inr ⟨r, hlog hm⟩
  | enter hl _ | exit hl _ | canMatch hl | cannotMatch hl | wait hl _ | pass hl _
  | wakeStopped hl _ | wake hl _ _ | recheck hl _ _ | relock hl | sleep _ hl _
  | swapUpdates _ hl _ | eraseCancelled hl | disconnectIgnored hl _ | insertPlayer hl _
  | createSession hl _ _ | pushRejected hl | clearUpdates hl | broadcast hl | sent hl
  | broadcastDone hl | takeGame hl | pushFinished hl | gameDone hl | finish hl =>
    exact hs.advance (fun _ => id) (by rw [hl]; rfl) rfl

end Local

section Run

variable {T : Traits} {D Worker : Type} [DecidableEq Worker] {cfg : Config T}
  {mm : Matchmaker T D} {timestep : Int} {ms ms' : MatchmakingServer T D Worker}

theorem MatchmakingStep.no_completed_login (h : MatchmakingStep cfg mm timestep ms evs ms')
    (hr : ((matchmakingServer cfg mm timestep).restrict Unstopped).Reachable ms)
    (hf : Unstopped ms evs ms') (hc : Completed ms.base.log cid.session) :
    .handleOpen cid data ∉ evs := by
  intro he
  have hbase := unstopped_project hr
  obtain ⟨r, hd⟩ := decided_invariant.reachable hbase cid.session hc
  rcases h.project hf.running with ⟨rfl, -⟩ | hb
  · cases he
  · exact hb.handleOpen_undecided (sessionLocking_invariant.reachable hbase.of_restrict) he hd

theorem MatchmakingStep.retired (h : MatchmakingStep cfg mm timestep ms evs ms')
    (hr : ((matchmakingServer cfg mm timestep).restrict Unstopped).Reachable ms)
    (hf : Unstopped ms evs ms') (hc : Completed ms.base.log sid) (hs : ms.Retired sid) :
    ms'.Retired sid := by
  have outer (hd : ms'.sessionData = ms.sessionData) (hl : ms'.loop = ms.loop)
      (hfin : ms'.finishedSessions = ms.finishedSessions)
      (hu : ms'.connectionUpdates.1 =
        ms.connectionUpdates.1 ++ evs.filterMap Event.matchUpdate) : ms'.Retired sid := by
    refine hs.advance (fun hn => hd ▸ hn) (hl ▸ fun _ => id) (fun cid data hm => ?_)
      (hfin ▸ fun _ => id) (hl ▸ id) (hl ▸ id)
    rw [hu] at hm
    apply (List.mem_append.1 hm).imp_right
    intro hm hsid
    obtain ⟨e, he, hm⟩ := List.mem_filterMap.1 hm
    cases e <;> simp only [Event.matchUpdate, Option.some.injEq, reduceCtorEq,
      ConnectionUpdate.connection.injEq] at hm
    obtain ⟨rfl, rfl⟩ := hm
    exact h.no_completed_login hr hf (hsid ▸ hc) he
  cases h with
  | transport h =>
    apply outer rfl rfl rfl
    rw [filterMap_unhandled h.unhandled Event.matchUpdate_of_unhandled, List.append_nil]
  | worker w h hfree => exact outer rfl rfl rfl rfl
  | loop hidle h => exact h.retired (clean_invariant.reachable hr) hs
  | call hbusy h =>
    apply outer rfl rfl rfl
    rw [filterMap_unhandled h.unhandled Event.matchUpdate_of_unhandled, List.append_nil]
    rfl
  | run h => exact outer rfl rfl rfl (List.append_nil _).symm
  | stop h => cases h <;> exact (hf.running List.mem_cons_self).elim

theorem completesGames_invariant :
    ((matchmakingServer cfg mm timestep).restrict Unstopped).Invariant
      fun ms : MatchmakingServer T D Worker => CompletesGames ms where
  init := by
    intro ms hinit game hg
    obtain ⟨t, rfl⟩ := hinit
    cases hg
  step {ms evs ms'} hr hs h := by
    obtain ⟨h, hf⟩ := h
    have hlog := List.subset_append_left ms.base.log evs
    cases h with
    | transport h | worker w h hfree | call hbusy h | run h => exact hs.advance hlog rfl rfl
    | loop hidle h => exact h.completesGames hs
    | stop h => cases h <;> exact (hf.running List.mem_cons_self).elim

/-- Without `stop` and the release of locks, with any number of workers: a session that was
passed to `complete_session` before the end of a tick is in the session data at no later call of
`match`; so a game that `match` draws from the session data shares no session with a game of an
earlier tick. -/
theorem completed_session_never_offered
    (hms : ((matchmakingServer cfg mm timestep).restrict Unstopped).Reachable ms)
    (hl : ms.loop.holdsSessions = false)
    (hrun : ((matchmakingServer cfg mm timestep).restrict Unstopped).Run ms ls ms')
    (hm : ms'.loop = .matching t) :
    (∀ sid, Completed ms.base.log sid → sid ∉ ms'.sessionData.keys) ∧
    ∀ games msgs, mm.returns ms'.sessionData t games msgs →
      (∀ game ∈ games, ∀ sid ∈ game.sessions, sid ∈ ms'.sessionData.keys) →
      ∀ game ∈ games, ∀ game' ∈ ms.emitted, game.Apart game' := by
  have hnever : ∀ sid, Completed ms.base.log sid → sid ∉ ms'.sessionData.keys := by
    intro sid hc hk
    have hretired := (clean_invariant.reachable hms).retired hl hc
    have hkept := hrun.preserves (I := fun ms => Completed ms.base.log sid ∧ ms.Retired sid)
      (P := fun _ => True) hms ?_ ⟨hc, hretired⟩
    · obtain ⟨d, hd⟩ := (Map.mem_keys_iff _).1 hk
      rcases hkept.1.2 with ⟨hn, -⟩ | ⟨-, hb | ⟨hb, -⟩⟩
      · rw [hn] at hd
        cases hd
      · rw [hm] at hb
        cases hb
      · rw [hm] at hb
        cases hb
    · rintro ms evs ms' hr ⟨hc, hs⟩ ⟨h, hf⟩
      obtain ⟨r, hm⟩ := hc
      refine ⟨⟨⟨r, ?_⟩, h.retired hr hf ⟨r, hm⟩ hs⟩, trivial⟩
      rw [h.log hf.running]
      exact List.mem_append_left _ hm
  refine ⟨hnever, fun games msgs _ hdrawn game hg game' hg' sid hs hs' => ?_⟩
  have hx : (sid, ⟨game'.session, game'.data⟩) ∈ game'.results := List.mem_map.2 ⟨sid, hs', rfl⟩
  rcases completesGames_invariant.reachable hms game' hg' _ hx with hr | hc
  · rw [ms.loop.remaining_eq_nil hl] at hr
    cases hr
  · exact hnever sid hc (hdrawn game hg sid hs)

end Run

/-- The data of Eve's token are invalid: session 7 is cancelled in the first tick, and the
second tick does not offer it to the matchmaker. -/
theorem completed_session_never_offered_cancelled :
    ∃ ms : MatchmakingServer natTraits Nat Unit, ms.loop = .matching 0 ∧
      .completing (7 : Nat) ⟨(7 : Nat), (0 : Nat)⟩ ∈ ms.base.log ∧
      (7 : Nat) ∉ ms.sessionData.keys := by
  have h0 : ((matchmakingServer natConfig natMatchmaker 0).restrict Unstopped).Reachable
      (MatchmakingServer.start 0 : MatchmakingServer natTraits Nat Unit) := .init ⟨0, rfl⟩
  have h1 := h0.step ⟨.run (.run rfl), by simp, fun _ => id⟩
  have h2 := h1.step ⟨.transport (.onMessage (5 : Nat) "eve"), by simp, fun _ => id⟩
  have h3 := h2.step ⟨.worker () (.enter rfl) nofun, by simp, fun _ => id⟩
  have h4 := h3.step ⟨.worker () (.pop rfl) nofun, by simp, fun _ => id⟩
  have h5 := h4.step ⟨.worker () (.messageUnbound rfl rfl) nofun, by simp, fun _ => id⟩
  have h6 := h5.step ⟨.worker () (.openSession ⟨0, 0⟩ rfl rfl rfl) nofun, by simp, fun _ => id⟩
  have h7 := h6.step ⟨.worker () .setupConnectionId nofun, by simp, fun _ => id⟩
  have h8 := h7.step ⟨.worker () .handleOpen nofun, by simp, fun _ => id⟩
  have h9 := Unstopped.loop h8 rfl (.enter rfl rfl)
  have h10 := Unstopped.loop h9 rfl (.canMatch rfl)
  have h11 := Unstopped.loop h10 rfl (.swapUpdates 0 rfl (by decide))
  have h12 := h11.step
    ⟨.loop rfl (.rejectData rfl rfl rfl (.completeSession ⟨0, 0⟩ _ _ rfl rfl)), by simp,
      fun _ => id⟩
  have h13 := h12.step ⟨.call nofun (.findPlayer (3 : Nat) (by decide) rfl), by simp, fun _ => id⟩
  have h14 := h13.step ⟨.call nofun .closePlayer, by simp, fun _ => id⟩
  have h15 := h14.step ⟨.call nofun .lockSession, by simp, fun _ h => (h rfl).elim⟩
  have h16 := Unstopped.loop h15 rfl (.pushRejected rfl)
  have h17 := Unstopped.loop h16 rfl (.clearUpdates rfl)
  have h18 := Unstopped.loop h17 rfl (.eraseFinished rfl)
  have h19 := Unstopped.loop h18 rfl
    (.matchSessions [] [] rfl ⟨.nil, List.forall_mem_nil _⟩)
  have h20 := Unstopped.loop h19 rfl (.broadcastDone rfl)
  have h21 := Unstopped.loop h20 rfl (.finish rfl)
  have later {ms : MatchmakingServer natTraits Nat Unit}
      (_ : ((matchmakingServer natConfig natMatchmaker 0).restrict Unstopped).Reachable ms) :
      ((matchmakingServer natConfig natMatchmaker 0).restrict Unstopped).Run ms [] ms := .nil
  have tick {ms ms₁ ms₂ : MatchmakingServer natTraits Nat Unit} {ls : List (List (Event natTraits))}
      (hrun : ((matchmakingServer natConfig natMatchmaker 0).restrict Unstopped).Run ms ls ms₁)
      (hidle : ms₁.base.caller () = .idle)
      (h : MatchStep natConfig natMatchmaker 0 ms₁ [] ms₂) :
      ((matchmakingServer natConfig natMatchmaker 0).restrict Unstopped).Run ms (ls ++ [[]]) ms₂ :=
    hrun.snoc ⟨.loop hidle h, .quiet h⟩
  have r1 := tick (later h21) rfl (.enter rfl rfl)
  have r2 := tick r1 rfl (.canMatch rfl)
  have r3 := tick r2 rfl (.swapUpdates 0 rfl (by decide))
  have r4 := tick r3 rfl (.clearUpdates rfl)
  have r5 := tick r4 rfl (.eraseFinished rfl)
  have hnever := (completed_session_never_offered h21 rfl r5 rfl).1 (7 : Nat)
    ⟨⟨(7 : Nat), (0 : Nat)⟩, List.mem_of_getElem? (i := 4) rfl⟩
  exact ⟨_, rfl, List.mem_of_getElem? (i := 4) rfl, hnever⟩

end WebGameServer
