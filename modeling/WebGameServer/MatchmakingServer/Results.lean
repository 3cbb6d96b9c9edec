import WebGameServer.BaseServer.Traceable
import WebGameServer.MatchmakingServer.Retirement

namespace WebGameServer
set_option autoImplicit true

section Local

variable {T : Traits} {D Worker : Type} {cfg : Config T} {mm : Matchmaker T D}
  {timestep : Int} {ms ms' : MatchmakingServer T D Worker}

def MatchPc.afterMatch : MatchPc T → Bool
  | .broadcasting _ _ | .broadcastingTo _ _ _ _ _ | .finishing _ | .finishingGame _ _
  | .ending _ _ _ => true
  | _ => false

/-- Outside of this part of the tick there are no new games, and it ends with the last game. -/
theorem MatchStep.leaves_match (h : MatchStep cfg mm timestep ms evs ms')
    (ha : ms'.loop.afterMatch = false) :
    ms'.emitted = ms.emitted ∧ (ms.loop.afterMatch = false ∨
      ms.loop.remaining = [] ∧ ms'.loop.holdsSessions = false) := by
  cases h with
  | eraseFinished hl =>
    rw [MatchmakingServer.eraseFinished_eq]
    exact ⟨rfl, .inl (by rw [hl]; rfl)⟩
  | finish hl => exact ⟨rfl, .inr ⟨by rw [hl]; rfl, rfl⟩⟩
  | matchSessions | broadcast | sendMessage | sendIgnored | sent | broadcastDone | takeGame
  | endSession | pushFinished | gameDone => cases ha
  | enter hl | exit hl | canMatch hl | cannotMatch hl | wait hl | pass hl | wakeStopped hl
  | wake hl | recheck hl | relock hl | sleep _ hl | swapUpdates _ hl | cancelSession hl
  | eraseCancelled hl | disconnectIgnored hl | insertPlayer hl | createSession hl | rejectData hl
  | pushRejected hl | clearUpdates hl => exact ⟨rfl, .inl (by rw [hl]; rfl)⟩

def Spent (ms : MatchmakingServer T D Worker) : Prop :=
  ms.loop.afterMatch = false → ∀ game ∈ ms.emitted, ∀ sid ∈ game.sessions,
    Completed ms.base.log sid ∧ ms.Retired sid

theorem MatchmakingServer.Retired.not_offered (h : ms.Retired sid) (hl : ms.loop = .matching t) :
    sid ∉ ms.sessionData.keys := by
  intro hk
  obtain ⟨d, hd⟩ := (Map.mem_keys_iff _).1 hk
  rcases h with ⟨hn, -⟩ | ⟨-, hb | ⟨hb, -⟩⟩
  · cases hn.symm.trans hd
  · rw [hl] at hb
    cases hb
  · rw [hl] at hb
    cases hb

theorem MatchStep.apart (h : MatchStep cfg mm timestep ms evs ms') (hmm : mm.Draws)
    (hs : Spent ms) (ha : ms.emitted.Pairwise MatchedGame.Apart) :
    ms'.emitted.Pairwise MatchedGame.Apart := by
  cases h with
  | matchSessions games msgs hl hm =>
    obtain ⟨hapart, hdrawn⟩ := hmm _ _ _ _ hm
    apply List.pairwise_append.2 ⟨ha, hapart, _⟩
    intro game hg game' hg' sid hsid hsid'
    obtain ⟨-, hr⟩ := hs (by rw [hl]; rfl) game hg sid hsid
    exact hr.not_offered hl (hdrawn game' hg' sid hsid')
  | eraseFinished hl =>
    rw [MatchmakingServer.eraseFinished_eq]
    exact ha
  | _ => exact ha

/-- What the loop passes to `complete_session` is the result of an emitted game or cancels the
session. -/
structure Sourced (mm : Matchmaker T D) (ms : MatchmakingServer T D Worker) : Prop where
  remaining : ∀ x ∈ ms.loop.remaining, ∃ game ∈ ms.emitted, x ∈ game.results
  completed : ∀ sid r, .completing sid r ∈ ms.base.log → r = ⟨sid, mm.getCancelData⟩ ∨
    ∃ game ∈ ms.emitted, (sid, r) ∈ game.results
  returned : ∀ game ∈ ms.emitted, ∃ sessions t games msgs,
    mm.returns sessions t games msgs ∧ game ∈ games

theorem Sourced.advance (h : Sourced mm ms) (hemitted : ms'.emitted = ms.emitted)
    (hremaining : ms'.loop.remaining ⊆ ms.loop.remaining)
    (hlog : ∀ sid r, .completing sid r ∈ ms'.base.log → .completing sid r ∈ ms.base.log ∨
      r = ⟨sid, mm.getCancelData⟩ ∨ (sid, r) ∈ ms.loop.remaining) : Sourced mm ms' := by
  constructor
  · intro x hx
    rw [hemitted]
    exact h.remaining x (hremaining hx)
  · intro sid r hm
    rw [hemitted]
    rcases hlog sid r hm with hm | hr | hx
    · exact h.completed sid r hm
    · exact .inl hr
    · exact .inr (h.remaining _ hx)
  · rw [hemitted]
    exact h.returned

theorem MatchStep.sourced (h : MatchStep cfg mm timestep ms evs ms') (hs : Sourced mm ms) :
    Sourced mm ms' := by
  have called {e : Event T} {s : Server T (Worker ⊕ Unit)} {pc : CallerPc T} {loop : MatchPc T}
      (hloop : loop.remaining ⊆ ms.loop.remaining)
      (he : ∀ sid r, e = .completing sid r → r = ⟨sid, mm.getCancelData⟩ ∨
        (sid, r) ∈ ms.loop.remaining) :
      Sourced mm { ms.called [e] s pc with loop := loop } := by
    refine hs.advance rfl hloop fun sid r hm => ?_
    rcases List.mem_append.1 hm with hm | hm
    · exact .inl hm
    · exact .inr (he sid r (List.mem_singleton.1 hm).symm)
  cases h with
  | matchSessions games msgs hl hm =>
    constructor
    · intro x hx
      obtain ⟨game, hg, hx⟩ := List.mem_flatMap.1 hx
      exact ⟨game, List.mem_append_right _ hg, hx⟩
    · intro sid r hc
      apply (hs.completed sid r hc).imp_right
      rintro ⟨game, hg, hx⟩
      exact ⟨game, List.mem_append_left _ hg, hx⟩
    · intro game hg
      rcases List.mem_append.1 hg with hg | hg
      · exact hs.returned game hg
      · exact ⟨_, _, _, _, hm, hg⟩
  | eraseFinished hl =>
    rw [MatchmakingServer.eraseFinished_eq]
    exact hs.advance rfl (List.nil_subset _) (fun _ _ => .inl)
  | cancelSession hl | rejectData hl =>
    apply called (List.nil_subset _)
    intro sid r he
    cases he
    exact .inl rfl
  | sendMessage _ hl | sendIgnored _ hl =>
    apply called
    · rw [hl]
      exact List.Subset.refl _
    · intro sid r he
      cases he
  | endSession hl =>
    apply called
    · rw [hl]
      exact List.subset_cons_self _ _
    · intro sid r he
      cases he
      rw [hl]
      exact .inr List.mem_cons_self
  | broadcast hl | sent hl | broadcastDone hl | takeGame hl | pushFinished hl | gameDone hl =>
    exact hs.advance rfl (by rw [hl]; exact List.Subset.refl _) (fun _ _ => .inl)
  | _ => exact hs.advance rfl (List.nil_subset _) (fun _ _ => .inl)

end Local

section Run

variable {T : Traits} {D Worker : Type} [DecidableEq Worker] {cfg : Config T}
  {mm : Matchmaker T D} {timestep : Int} {ms ms' : MatchmakingServer T D Worker}

theorem spent_invariant : ((matchmakingServer cfg mm timestep).restrict Unstopped).Invariant
    fun ms : MatchmakingServer T D Worker => Spent ms where
  init := by
    rintro ms ⟨t, rfl⟩ - game hg
    cases hg
  step {ms evs ms'} hr hs h := by
    intro ha game hg sid hsid
    have hclean := clean_invariant.reachable (hr.step h)
    have hdone := completesGames_invariant.reachable hr
    obtain ⟨h, hf⟩ := h
    have kept (hg : game ∈ ms.emitted) (ha : ms.loop.afterMatch = false) :
        Completed ms'.base.log sid ∧ ms'.Retired sid := by
      obtain ⟨⟨r, hc⟩, hretired⟩ := hs ha game hg sid hsid
      refine ⟨⟨r, ?_⟩, h.retired hr hf ⟨r, hc⟩ hretired⟩
      rw [h.log hf.running]
      exact List.mem_append_left _ hc
    cases h with
    | transport h | worker w h hfree | call hbusy h | run h => exact kept hg ha
    | loop hidle h' =>
      obtain ⟨hemitted, hbefore | ⟨hremaining, hheld⟩⟩ := h'.leaves_match ha
      · exact kept (hemitted ▸ hg) hbefore
      · rcases hdone game (hemitted ▸ hg) (sid, _) (List.mem_map_of_mem hsid) with hx | ⟨r, hc⟩
        · rw [hremaining] at hx
          cases hx
        · have hc : Completed ms'.base.log sid := by
            obtain rfl := h'.silent hheld
            rw [h'.base_eq]
            exact ⟨r, hc⟩
          exact ⟨hc, hclean.retired hheld hc⟩
    | stop h => cases h <;> exact (hf.running List.mem_cons_self).elim

theorem emitted_apart_invariant (hmm : mm.Draws) :
    ((matchmakingServer cfg mm timestep).restrict Unstopped).Invariant
      fun ms : MatchmakingServer T D Worker => ms.emitted.Pairwise MatchedGame.Apart where
  init := by
    rintro ms ⟨t, rfl⟩
    exact .nil
  step {ms evs ms'} hr ha h := by
    obtain ⟨h, hf⟩ := h
    cases h with
    | transport h | worker w h hfree | call hbusy h | run h => exact ha
    | loop hidle h => exact h.apart hmm (spent_invariant.reachable hr) ha
    | stop h => cases h <;> exact (hf.running List.mem_cons_self).elim

theorem sourced_invariant : ((matchmakingServer cfg mm timestep).restrict Unstopped).Invariant
    fun ms : MatchmakingServer T D Worker => Sourced mm ms where
  init := by
    rintro ms ⟨t, rfl⟩
    exact ⟨List.forall_mem_nil _, nofun, List.forall_mem_nil _⟩
  step {ms evs ms'} hr hs h := by
    obtain ⟨h, hf⟩ := h
    have outer (hemitted : ms'.emitted = ms.emitted) (hloop : ms'.loop = ms.loop)
        (hlog : ms'.base.log = ms.base.log ++ evs)
        (hevs : ∀ sid r, .completing sid r ∉ evs) : Sourced mm ms' := by
      apply hs.advance hemitted (by rw [hloop]; exact List.Subset.refl _)
      intro sid r hm
      rw [hlog] at hm
      exact .inl ((List.mem_append.1 hm).resolve_right (hevs sid r))
    cases h with
    | transport h => exact outer rfl rfl rfl fun sid r => h.no_completing
    | worker w h hfree => exact outer rfl rfl rfl fun sid r => h.no_completing
    | loop hidle h => exact h.sourced hs
    | call hbusy h => exact outer rfl rfl rfl fun sid r => h.busy_no_completing hbusy
    | run h => exact outer rfl rfl rfl fun sid r => h.no_completing
    | stop h => cases h <;> exact (hf.running List.mem_cons_self).elim

/-- A text for a player is made from a result that cancels the session or comes from its game. -/
theorem result_source (h : ((matchmakingServer cfg mm timestep).restrict Unstopped).Reachable ms)
    (hm : .result cid str ∈ ms.base.log) :
    ∃ r : SessionData T, (r = ⟨cid.session, mm.getCancelData⟩ ∨ ∃ game ∈ ms.emitted,
      cid.session ∈ game.sessions ∧ r = ⟨game.session, game.data⟩) ∧
      str = cfg.getResultStr ⟨cid.player, r.session⟩ r.data := by
  have hbase := (unstopped_project h).of_restrict
  obtain ⟨r, hc, rfl⟩ := (traceable_invariant.reachable hbase).results cid str hm
  refine ⟨r, ?_, rfl⟩
  apply ((sourced_invariant.reachable h).completed _ r hc).imp_right
  rintro ⟨game, hg, hx⟩
  obtain ⟨sid, hsid, he⟩ := List.mem_map.1 hx
  cases he
  exact ⟨game, hg, hsid, rfl⟩

end Run

section Main

variable {T : Traits} {D Worker : Type} [DecidableEq Worker] {cfg : Config T}
  {mm : Matchmaker T D} {timestep : Int} {ms : MatchmakingServer T D Worker}

end Main

end WebGameServer
