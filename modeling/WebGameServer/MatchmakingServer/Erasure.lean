import WebGameServer.BaseServer.Completion
import WebGameServer.MatchmakingServer.Loop

namespace WebGameServer
set_option autoImplicit true

section Local

variable {T : Traits} {D Worker : Type} {cfg : Config T} {mm : Matchmaker T D}
  {timestep : Int} {ms ms' : MatchmakingServer T D Worker} {log : List (Event T)}

/-- The connection updates that the tick in progress has not processed yet. -/
def MatchPc.todo : MatchPc T → List (ConnectionUpdate T)
  | .connecting _ todo | .cancelling _ _ todo | .rejecting _ _ todo => todo
  | _ => []

/-- The session in the call of `complete_session`. -/
def MatchPc.ended : MatchPc T → Option T.SessionId
  | .cancelling _ sid _ | .rejecting _ sid _ | .ending sid _ _ => some sid
  | _ => none

/-- In the loop of `process_connection_updates`. -/
def MatchPc.processing : MatchPc T → Bool
  | .connecting _ _ | .cancelling _ _ _ | .rejecting _ _ _ => true
  | _ => false

/-- Between the swap of the connection updates and the erasure of the ended sessions. -/
def MatchPc.beforeErasure : MatchPc T → Bool
  | .connecting _ _ | .cancelling _ _ _ | .rejecting _ _ _ | .erasing _ => true
  | _ => false

def MatchmakingServer.unprocessed (ms : MatchmakingServer T D Worker) :
    List (ConnectionUpdate T) :=
  ms.loop.todo ++ ms.connectionUpdates.1

/-- The session has ended and is to be erased in the next tick. -/
def MatchmakingServer.EndedNow (ms : MatchmakingServer T D Worker) (sid : T.SessionId) :
    Prop :=
  sid ∈ ms.finishedSessions.2 ∨ ms.loop.ended = some sid

/-- The session has ended and is to be erased in this tick or in the next. -/
def MatchmakingServer.Ended (ms : MatchmakingServer T D Worker) (sid : T.SessionId) : Prop :=
  sid ∈ ms.finishedSessions.1 ∨ ms.EndedNow sid

/-- A session that was passed to `complete_session` occurs in the session data and in the
queued connects only as long as it is to be erased. -/
structure Clean (ms : MatchmakingServer T D Worker) : Prop where
  sessions : ∀ sid d, ms.sessionData.lookup sid = some d → Completed ms.base.log sid →
    ms.Ended sid
  queued : ∀ cid data, .connection cid data ∈ ms.unprocessed →
    Completed ms.base.log cid.session → ms.Ended cid.session
  fresh : ms.loop.beforeErasure = true → ∀ cid data,
    .connection cid data ∈ ms.connectionUpdates.1 → Completed ms.base.log cid.session →
    ms.EndedNow cid.session
  cleared : ms.loop.processing = false → ms.connectionUpdates.2 = []
  second : ms.loop.beforeErasure = false → ms.finishedSessions.2 = []

/-- A step of the loop that starts no session and swaps nothing. A session that it completes
counts as ended. -/
theorem Clean.advance (h : Clean ms)
    (hlog : ∀ sid, Completed ms'.base.log sid → Completed ms.base.log sid ∨ ms'.EndedNow sid)
    (hended : ∀ sid, ms.Ended sid → ms'.Ended sid)
    (hnow : ms'.loop.beforeErasure = true → ms.loop.beforeErasure = true ∧
      ∀ sid, ms.EndedNow sid → ms'.EndedNow sid)
    (hsessions : ∀ sid d, ms'.sessionData.lookup sid = some d →
      ∃ d', ms.sessionData.lookup sid = some d')
    (htodo : ms'.loop.todo ⊆ ms.loop.todo)
    (hfirst : ms'.connectionUpdates.1 = ms.connectionUpdates.1)
    (hcleared : ms'.loop.processing = false → ms'.connectionUpdates.2 = [])
    (hsecond : ms'.loop.beforeErasure = false → ms'.finishedSessions.2 = []) : Clean ms' := by
  constructor
  · intro sid d hd hc
    rcases hlog sid hc with hc | he
    · obtain ⟨d', hd'⟩ := hsessions sid d hd
      exact hended sid (h.sessions sid d' hd' hc)
    · exact .inr he
  · intro cid data hm hc
    rcases hlog _ hc with hc | he
    · apply hended _ (h.queued cid data ?_ hc)
      rw [MatchmakingServer.unprocessed, hfirst] at hm
      exact List.append_subset.2 ⟨List.subset_append_of_subset_left _ htodo,
        List.subset_append_right _ _⟩ hm
    · exact .inr he
  · intro hb cid data hm hc
    obtain ⟨hb, hnow⟩ := hnow hb
    rcases hlog _ hc with hc | he
    · exact hnow _ (h.fresh hb cid data (hfirst ▸ hm) hc)
    · exact he
  · exact hcleared
  · exact hsecond

theorem Clean.keep (h : Clean ms)
    (hlog : ∀ sid, Completed ms'.base.log sid → Completed ms.base.log sid)
    (hfinished : ms'.finishedSessions = ms.finishedSessions)
    (hsessions : ms'.sessionData = ms.sessionData)
    (hfirst : ms'.connectionUpdates.1 = ms.connectionUpdates.1)
    (htodo : ms'.loop.todo ⊆ ms.loop.todo) (hended : ms'.loop.ended = ms.loop.ended)
    (hbefore : ms'.loop.beforeErasure = ms.loop.beforeErasure)
    (hcleared : ms'.loop.processing = false → ms'.connectionUpdates.2 = []) : Clean ms' := by
  have hnow : ∀ sid, ms.EndedNow sid → ms'.EndedNow sid := by
    intro sid hn
    rwa [MatchmakingServer.EndedNow, hfinished, hended]
  refine h.advance (fun sid hc => .inl (hlog sid hc)) (fun sid hn => ?_)
    (fun hb => ⟨hbefore ▸ hb, hnow⟩) (fun sid d hd => ⟨d, hsessions ▸ hd⟩) htodo hfirst hcleared
    (fun hb => ?_)
  · rw [MatchmakingServer.Ended, hfinished]
    exact hn.imp_right (hnow sid)
  · rw [hfinished]
    exact h.second (hbefore ▸ hb)

theorem Clean.swapUpdates (h : Clean ms) (hl : ms.loop = .timing) :
    Clean { ms.swapUpdates with loop := .connecting t ms.connectionUpdates.1 } := by
  have hfirst : ms.connectionUpdates.2 = [] := h.cleared (by rw [hl]; rfl)
  have hended : ∀ sid, ms.Ended sid → MatchmakingServer.Ended { ms.swapUpdates with
      loop := .connecting t ms.connectionUpdates.1 } sid := by
    refine fun sid he => he.imp_right fun he => he.imp_right fun he => ?_
    rw [hl] at he
    cases he
  constructor
  · exact fun sid d hd hc => hended sid (h.sessions sid d hd hc)
  · intro cid data hm hc
    apply hended _ (h.queued cid data ?_ hc)
    simp only [MatchmakingServer.unprocessed, hl, MatchPc.todo, MatchmakingServer.swapUpdates,
      hfirst, List.append_nil, List.nil_append] at hm ⊢
    exact hm
  · intro _ cid data hm
    simp only [MatchmakingServer.swapUpdates, hfirst, List.not_mem_nil] at hm
  · exact nofun
  · exact nofun

theorem Clean.createSession (h : Clean ms)
    (hl : ms.loop = .connecting t (.connection cid data :: todo)) (d : D) :
    Clean { ms.createSession cid d with loop := .connecting t todo } := by
  have hended : ∀ sid, ms.Ended sid → MatchmakingServer.Ended { ms.createSession cid d with
      loop := .connecting t todo } sid := by
    refine fun sid he => he.imp_right fun he => he.imp_right fun he => ?_
    rw [hl] at he
    cases he
  have hunprocessed : ms.unprocessed =
      .connection cid data :: (todo ++ ms.connectionUpdates.1) := by
    rw [MatchmakingServer.unprocessed, hl]
    rfl
  constructor
  · intro sid d' hd hc
    rcases Map.of_lookup_emplace hd with ⟨rfl, -⟩ | hd
    · exact hended _ (h.queued cid data (hunprocessed ▸ List.mem_cons_self) hc)
    · exact hended sid (h.sessions sid d' hd hc)
  · intro cid' data' hm hc
    exact hended _ (h.queued cid' data' (hunprocessed ▸ List.mem_cons_of_mem _ hm) hc)
  · intro _ cid' data' hm hc
    apply (h.fresh (by rw [hl]; rfl) cid' data' hm hc).imp_right
    intro he
    rw [hl] at he
    cases he
  · exact nofun
  · exact nofun

theorem Clean.eraseFinished (h : Clean ms) (hl : ms.loop = .erasing t) :
    Clean { ms.eraseFinished with loop := .matching t } := by
  have hlookup := ms.lookup_foldl_eraseSession ms.finishedSessions.1
  have hended (sid : T.SessionId) : ms.loop.ended ≠ some sid := by
    rw [hl]
    exact nofun
  rw [MatchmakingServer.eraseFinished_eq]
  constructor
  · intro sid d hd hc
    have hd' := (hlookup sid).symm.trans hd
    split at hd'
    · cases hd'
    · next hs =>
      rcases h.sessions sid d hd' hc with he | he | he
      · exact (hs he).elim
      · exact .inl he
      · exact (hended _ he).elim
  · intro cid data hm hc
    rcases h.fresh (by rw [hl]; rfl) cid data hm hc with he | he
    · exact .inl he
    · exact (hended _ he).elim
  · exact nofun
  · exact fun _ => h.cleared (by rw [hl]; rfl)
  · exact fun _ => rfl

theorem Clean.complete (h : Clean ms) {pc : MatchPc T} (hl : ms.loop.ended = none)
    (he : pc.ended = some sid) (ht : pc.todo ⊆ ms.loop.todo)
    (hb : pc.beforeErasure = ms.loop.beforeErasure)
    (hp : pc.processing = ms.loop.processing) :
    Clean { ms.called [.completing sid r] s c with loop := pc } := by
  have hnow : ∀ sid', ms.EndedNow sid' → MatchmakingServer.EndedNow
      { ms.called [.completing sid r] s c with loop := pc } sid' := by
    refine fun sid' hn => hn.imp_right fun hn => ?_
    rw [hl] at hn
    cases hn
  refine h.advance (fun sid' hc => ?_) (fun sid' hn => hn.imp_right (hnow sid'))
    (fun hb' => ⟨hb ▸ hb', hnow⟩) (fun _ d hd => ⟨d, hd⟩) ht rfl
    (fun hp' => h.cleared (hp ▸ hp')) (fun hb' => h.second (hb ▸ hb'))
  rcases hc.of_append with hc | ⟨r', hm⟩
  · exact .inl hc
  · cases List.mem_singleton.1 hm
    exact .inr (.inr he)

theorem MatchmakingServer.EndedNow.push (h : ms.EndedNow sid')
    (he : ms.loop.ended = some sid) : sid' ∈ ms.finishedSessions.2 ++ [sid] := by
  rcases h with h | h
  · exact List.mem_append_left _ h
  · rw [he] at h
    cases h
    exact List.mem_append_right _ (List.mem_singleton.2 rfl)

/-- The session that was completed while the connection updates are processed is noted for the
next tick. -/
theorem Clean.pushSecond (h : Clean ms) (he : ms.loop.ended = some sid)
    (hb : ms.loop.beforeErasure = true) (ht : todo ⊆ ms.loop.todo)
    (hsessions : ∀ sid' d, ms'.sessionData.lookup sid' = some d →
      ∃ d', ms.sessionData.lookup sid' = some d')
    (hbase : ms'.base = ms.base)
    (hfinished : ms'.finishedSessions =
      (ms.finishedSessions.1, ms.finishedSessions.2 ++ [sid]))
    (hupdates : ms'.connectionUpdates = ms.connectionUpdates)
    (hloop : ms'.loop = .connecting t todo) : Clean ms' := by
  have hnow : ∀ sid', ms.EndedNow sid' → ms'.EndedNow sid' := by
    intro sid' hn
    rw [MatchmakingServer.EndedNow, hfinished]
    exact .inl (hn.push he)
  refine h.advance (fun sid' hc => .inl (hbase ▸ hc)) (fun sid' hn => ?_) (fun _ => ⟨hb, hnow⟩)
    hsessions (by rw [hloop]; exact ht) (by rw [hupdates]) ?_ ?_
  · rw [MatchmakingServer.Ended, hfinished]
    exact hn.imp_right (hnow sid')
  · rw [hloop]
    exact Bool.noConfusion
  · rw [hloop]
    exact Bool.noConfusion

/-- The session that was completed with its game is noted for the end of this tick. -/
theorem Clean.pushFirst (h : Clean ms) (hl : ms.loop = .ending sid game games) :
    Clean { ms with
      finishedSessions := (ms.finishedSessions.1 ++ [sid], ms.finishedSessions.2)
      loop := .finishingGame game games } := by
  have hsecond : ms.finishedSessions.2 = [] := h.second (by rw [hl]; rfl)
  refine h.advance (fun _ => .inl) (fun sid' hn => .inl ?_) Bool.noConfusion
    (fun sid' d hd => ⟨d, hd⟩) (List.nil_subset _) rfl
    (fun _ => h.cleared (by rw [hl]; rfl)) (fun _ => hsecond)
  rcases hn with hn | hn
  · exact List.mem_append_left _ hn
  · have hm := hn.push (by rw [hl]; rfl)
    rw [hsecond] at hm
    exact List.mem_append_right _ hm

theorem MatchStep.clean (h : MatchStep cfg mm timestep ms evs ms') (hs : Clean ms) :
    Clean ms' := by
  have move {pc : MatchPc T} (ht : pc.todo ⊆ ms.loop.todo) (he : pc.ended = ms.loop.ended)
      (hb : pc.beforeErasure = ms.loop.beforeErasure)
      (hp : pc.processing = false → ms.loop.processing = false) :
      Clean { ms with loop := pc } :=
    hs.keep (fun _ => id) rfl rfl rfl ht he hb fun hp' => hs.cleared (hp hp')
  have hsent {cid : CombinedId T} {msg : String} (sid : T.SessionId)
      (hc : Completed (ms.base.log ++ [.sending cid msg]) sid) : Completed ms.base.log sid := by
    rcases hc.of_append with hc | ⟨r, hm⟩
    · exact hc
    · cases List.mem_singleton.1 hm
  cases h with
  | enter hl hr | exit hl hr | canMatch hl | cannotMatch hl | wait hl hu | pass hl hu
  | wakeStopped hl hr | wake hl hr hu | recheck hl hr hu | relock hl | sleep t hl ht
  | broadcast hl | sent hl | broadcastDone hl | takeGame hl | gameDone hl | finish hl =>
    exact move (List.nil_subset _) (by rw [hl]; rfl) (by rw [hl]; rfl) (fun _ => by rw [hl]; rfl)
  | swapUpdates t hl ht => exact hs.swapUpdates hl
  | cancelSession hl hd hc | rejectData hl hd hv hc =>
    exact hs.complete (by rw [hl]; rfl) rfl (by rw [hl]; exact List.subset_cons_self _ _)
      (by rw [hl]; rfl) (by rw [hl]; rfl)
  | eraseCancelled hl =>
    refine hs.pushSecond (by rw [hl]; rfl) (by rw [hl]; rfl) (by rw [hl]; exact fun _ => id) ?_
      rfl rfl rfl rfl
    intro sid' d hd
    simp only [MatchmakingServer.eraseSession, Map.lookup_erase_ite] at hd
    split at hd
    · cases hd
    · exact ⟨d, hd⟩
  | disconnectIgnored hl hd =>
    exact move (by rw [hl]; exact List.subset_cons_self _ _) (by rw [hl]; rfl)
      (by rw [hl]; rfl) Bool.noConfusion
  | insertPlayer hl hd =>
    exact hs.keep (fun _ => id) rfl rfl rfl (by rw [hl]; exact List.subset_cons_self _ _)
      (by rw [hl]; rfl) (by rw [hl]; rfl) Bool.noConfusion
  | createSession hl hd hv => exact hs.createSession hl _
  | pushRejected hl =>
    exact hs.pushSecond (by rw [hl]; rfl) (by rw [hl]; rfl) (by rw [hl]; exact fun _ => id)
      (fun _ d hd => ⟨d, hd⟩) rfl rfl rfl rfl
  | clearUpdates hl =>
    exact hs.keep (fun _ => id) rfl rfl rfl (List.nil_subset _) (by rw [hl]; rfl) (by rw [hl]; rfl)
      (fun _ => rfl)
  | eraseFinished hl => exact hs.eraseFinished hl
  | matchSessions games msgs hl hm =>
    exact hs.keep (fun _ => id) rfl rfl rfl (List.nil_subset _) (by rw [hl]; rfl) (by rw [hl]; rfl)
      (fun _ => hs.cleared (by rw [hl]; rfl))
  | sendMessage pid hl hm hi hc | sendIgnored pid hl hm hi hc =>
    exact hs.keep hsent rfl rfl rfl (List.nil_subset _) (by rw [hl]; rfl) (by rw [hl]; rfl)
      (fun _ => hs.cleared (by rw [hl]; rfl))
  | endSession hl hc =>
    exact hs.complete (by rw [hl]; rfl) rfl (List.nil_subset _) (by rw [hl]; rfl) (by rw [hl]; rfl)
  | pushFinished hl => exact hs.pushFirst hl

theorem Clean.outer (h : Clean ms) (hevs : ∀ sid r, .completing sid r ∉ evs)
    (hopen : ∀ cid data, .handleOpen cid data ∈ evs → ¬ Completed ms.base.log cid.session)
    (hlog : ms'.base.log = ms.base.log ++ evs)
    (hupdates : ms'.connectionUpdates =
      (ms.connectionUpdates.1 ++ evs.filterMap Event.matchUpdate, ms.connectionUpdates.2))
    (hsessions : ms'.sessionData = ms.sessionData)
    (hfinished : ms'.finishedSessions = ms.finishedSessions) (hloop : ms'.loop = ms.loop) :
    Clean ms' := by
  have hold : ∀ sid, Completed ms'.base.log sid → Completed ms.base.log sid := by
    intro sid hc
    rw [hlog] at hc
    exact hc.of_append.resolve_right fun ⟨r, hm⟩ => hevs sid r hm
  have hfirst : ∀ cid data, .connection cid data ∈ ms'.connectionUpdates.1 →
      Completed ms'.base.log cid.session → .connection cid data ∈ ms.connectionUpdates.1 := by
    intro cid data hm hc
    rw [hupdates] at hm
    apply (List.mem_append.1 hm).resolve_right
    intro hm
    obtain ⟨e, he, hu⟩ := List.mem_filterMap.1 hm
    cases e <;> simp only [Event.matchUpdate, Option.some.injEq, reduceCtorEq,
      ConnectionUpdate.connection.injEq] at hu
    obtain ⟨rfl, rfl⟩ := hu
    exact hopen _ _ he (hold _ hc)
  have hnow : ∀ sid, ms.EndedNow sid → ms'.EndedNow sid := by
    intro sid hn
    rwa [MatchmakingServer.EndedNow, hfinished, hloop]
  have hended : ∀ sid, ms.Ended sid → ms'.Ended sid := by
    intro sid hn
    rw [MatchmakingServer.Ended, hfinished]
    exact hn.imp_right (hnow sid)
  constructor
  · intro sid d hd hc
    exact hended sid (h.sessions sid d (hsessions ▸ hd) (hold sid hc))
  · intro cid data hm hc
    apply hended _ (h.queued cid data ?_ (hold _ hc))
    rcases List.mem_append.1 hm with hm | hm
    · exact List.mem_append_left _ (hloop ▸ hm)
    · exact List.mem_append_right _ (hfirst cid data hm hc)
  · intro hb cid data hm hc
    exact hnow _ (h.fresh (hloop ▸ hb) cid data (hfirst cid data hm hc) (hold _ hc))
  · intro hp
    rw [hupdates]
    exact h.cleared (hloop ▸ hp)
  · intro hb
    rw [hfinished]
    exact h.second (hloop ▸ hb)

end Local

section Run

variable {T : Traits} {D Worker : Type} [DecidableEq Worker] {cfg : Config T}
  {mm : Matchmaker T D} {timestep : Int} {ms ms' : MatchmakingServer T D Worker}

/-- A step of a run without `stop` and without the release of a lock. -/
structure Unstopped (ms : MatchmakingServer T D Worker) (evs : List (Event T))
    (ms' : MatchmakingServer T D Worker) : Prop where
  running : .stopping ∉ evs
  locks : KeepsLocks ms.base evs ms'.base

omit [DecidableEq Worker] in
theorem Unstopped.quiet (h : MatchStep cfg mm timestep ms [] ms') : Unstopped ms [] ms' where
  running := List.not_mem_nil
  locks sid := by
    rw [h.base_eq]
    exact id

theorem unstopped_project
    (h : ((matchmakingServer cfg mm timestep).restrict Unstopped).Reachable ms) :
    ((baseServer cfg).restrict KeepsLocks).Reachable ms.base :=
  matchmakingServer_project (fun h => h.running) (fun h => h.locks) h

theorem clean_invariant : ((matchmakingServer cfg mm timestep).restrict Unstopped).Invariant
    fun ms : MatchmakingServer T D Worker => Clean ms where
  init := by
    intro ms hinit
    obtain ⟨t, rfl⟩ := hinit
    exact ⟨nofun, nofun, nofun, fun _ => rfl, fun _ => rfl⟩
  step {ms evs ms'} hr hs h := by
    obtain ⟨h, hf⟩ := h
    have hbase := unstopped_project hr
    have hopen : ∀ cid data, .handleOpen cid data ∈ evs →
        ¬ Completed ms.base.log cid.session := by
      intro cid data he hc
      obtain ⟨r, hd⟩ := decided_invariant.reachable hbase cid.session hc
      rcases h.project hf.running with ⟨rfl, -⟩ | hb
      · cases he
      · exact hb.handleOpen_undecided (sessionLocking_invariant.reachable hbase.of_restrict) he hd
    cases h with
    | transport h =>
      refine hs.outer (fun sid r => h.no_completing) hopen rfl ?_ rfl rfl rfl
      rw [filterMap_unhandled h.unhandled Event.matchUpdate_of_unhandled, List.append_nil]
    | worker w h hfree => exact hs.outer (fun sid r => h.no_completing) hopen rfl rfl rfl rfl rfl
    | loop hidle h => exact h.clean hs
    | call hbusy h =>
      refine hs.outer (fun sid r => h.busy_no_completing hbusy) hopen rfl ?_ rfl rfl rfl
      rw [filterMap_unhandled h.unhandled Event.matchUpdate_of_unhandled, List.append_nil]
      rfl
    | run h =>
      refine hs.outer (fun sid r => h.no_completing) hopen rfl ?_ rfl rfl rfl
      exact Prod.ext (List.append_nil _).symm rfl
    | stop h => cases h <;> exact (hf.running List.mem_cons_self).elim

end Run

end WebGameServer
