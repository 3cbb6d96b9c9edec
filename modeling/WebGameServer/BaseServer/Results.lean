import WebGameServer.BaseServer.SessionLock

namespace WebGameServer
set_option autoImplicit true

/-- The session that a call of `complete_session` is about to lock, with its result. -/
def CallerPc.deciding {T : Traits} : CallerPc T → Option (T.SessionId × SessionData T)
  | .completing sid result _ => some (sid, result)
  | .closing sid result _ _ _ => some (sid, result)
  | _ => none

theorem CallerPc.guarded_of_deciding {T : Traits} {pc : CallerPc T} {sid : T.SessionId}
    {r : SessionData T} (h : pc.deciding = some (sid, r)) : pc.guarded = some sid := by
  cases pc with
  | idle => cases h
  | completing sid' r' todo | closing sid' r' todo pid hdl => cases h; rfl
  | sending cid hdl msg => cases h

section Local

variable {T : Traits} {Thread : Type} {cfg : Config T} {me : Thread} {s s' : Server T Thread}

theorem WorkerStep.locked_before (h : WorkerStep cfg me s pc evs s' pc')
    (he : s'.lockedSessions.at? sid = some v) : s.lockedSessions.at? sid = some v := by
  cases h with
  | lockedSession c hv hn hr | openSession c hv hn hl => exact s.at?_of_updateSessionLocks he
  | setupConnectionId => simpa only [Server.setupConnectionId_lockedSessions] using he
  | disconnectSession hn => simpa only [Server.disconnectSession_lockedSessions] using he
  | _ => exact he

theorem CallerStep.locked_before (h : CallerStep cfg me s pc evs s' pc')
    (hg : Guards me s pc.guarded) (he : s'.lockedSessions.at? sid = some v) :
    s.lockedSessions.at? sid = some v ∨ pc.deciding = some (sid, v) := by
  cases h with
  | completeLocked c sid result hn hl | completeSession c sid result hn hl =>
    exact .inl (s.at?_of_updateSessionLocks he)
  | @lockSession _ sid' result =>
    have hi := s.lockedSessions.at?_insert (hg _ rfl).2 sid result
    simp only [Server.lockSession] at he
    rw [hi] at he
    by_cases hs : sid = sid'
    · subst hs
      simp only [↓reduceIte, Option.some.injEq] at he
      exact .inr (he ▸ rfl)
    · simp only [hs, ↓reduceIte] at he
      exact .inl he
  | _ => exact .inl he

theorem ControlStep.locked_before (h : ControlStep s pc evs s' pc')
    (he : s'.lockedSessions.at? sid = some v) : s.lockedSessions.at? sid = some v := by
  cases h with
  | run hr | stop hr | notifyAll => exact he
  | clearAll hn =>
    simp only [Server.clearAll, BufferedMap.at?_clear_clear, reduceCtorEq] at he

theorem CallerStep.deciding (h : CallerStep cfg me s pc evs s' pc')
    (hg : Guards me s pc.guarded) (hd : pc.deciding = some (sid, r)) :
    pc'.deciding = some (sid, r) ∨ s'.lockedSessions.at? sid = some r := by
  cases h with
  | findPlayer pid hp hi | skipPlayer pid hp hi | closePlayer => exact .inl hd
  | lockSession =>
    cases hd
    refine .inr ?_
    simp only [Server.lockSession, s.lockedSessions.at?_insert (hg _ rfl).2, ↓reduceIte]
  | completeLocked c sid result hn hl | completeSession c sid result hn hl
  | sendMessage cid msg hi | sendIgnored cid msg hi | pushMessage => cases hd

theorem WorkerStep.result_stored (h : WorkerStep cfg me s pc evs s' pc')
    (he : .result cid str ∈ evs) :
    ∃ r, s.lockedSessions.at? cid.session = some r ∧
      str = cfg.getResultStr ⟨cid.player, r.session⟩ r.data := by
  cases h with
  | lockedSession c hv hn hr =>
    simp only [List.mem_cons, Event.result.injEq, reduceCtorEq, List.not_mem_nil, or_false]
      at he
    obtain ⟨rfl, rfl⟩ := he
    exact ⟨_, s.at?_of_updateSessionLocks hr, rfl⟩
  | setupConnectionId =>
    obtain ⟨old, ho, he'⟩ := List.mem_map.1 he
    cases he'
  | _ => simp only [List.mem_cons, reduceCtorEq, List.not_mem_nil, or_false] at he

theorem CallerStep.result_deciding (h : CallerStep cfg me s pc evs s' pc')
    (he : .result cid str ∈ evs) :
    ∃ r, pc.deciding = some (cid.session, r) ∧
      str = cfg.getResultStr ⟨cid.player, r.session⟩ r.data := by
  cases h with
  | @closePlayer _ sid r todo pid hdl =>
    simp only [List.mem_cons, Event.result.injEq, List.not_mem_nil, or_false] at he
    obtain ⟨rfl, rfl⟩ := he
    exact ⟨r, rfl, rfl⟩
  | _ => simp only [List.mem_cons, reduceCtorEq, List.not_mem_nil, or_false] at he

theorem ControlStep.no_result (h : ControlStep s pc evs s' pc') : .result cid str ∉ evs :=
  notMem_of_shows h.shows rfl

theorem WorkerStep.no_completing (h : WorkerStep cfg me s pc evs s' pc') :
    .completing sid r ∉ evs :=
  notMem_of_shows h.shows rfl

theorem TransportStep.no_completing (h : TransportStep s evs s') : .completing sid r ∉ evs :=
  notMem_of_shows h.shows rfl

theorem ControlStep.no_completing (h : ControlStep s pc evs s' pc') :
    .completing sid r ∉ evs :=
  notMem_of_shows h.shows rfl

theorem CallerStep.decides (h : CallerStep cfg me s pc evs s' pc')
    (he : .completing sid r ∈ evs) (hn : s'.lockedSessions.at? sid = none) :
    pc'.deciding = some (sid, r) := by
  cases h with
  | completeLocked c sid' result hl hlocked =>
    cases List.mem_singleton.1 he
    obtain ⟨v, hv⟩ := BufferedMap.at?_of_contains _ hlocked
    rw [hn] at hv
    cases hv
  | completeSession c sid' result hl hlocked =>
    cases List.mem_singleton.1 he
    rfl
  | _ => simp only [List.mem_cons, reduceCtorEq, List.not_mem_nil, or_false] at he

end Local

variable {T : Traits} {Worker Caller : Type} [DecidableEq Worker] [DecidableEq Caller]
  {cfg : Config T} {σ σ' τ υ : System T Worker Caller}

/-- The session has the result `r`, in the lock table or in the call that will store it. -/
def Decided (σ : System T Worker Caller) (sid : T.SessionId) (r : SessionData T) : Prop :=
  σ.server.lockedSessions.at? sid = some r ∨ ∃ c, (σ.caller c).deciding = some (sid, r)

/-- The step does not release the lock of the session. -/
def Retains (sid : T.SessionId) (σ : System T Worker Caller) (_ : List (Event T))
    (σ' : System T Worker Caller) : Prop :=
  σ.server.lockedSessions.at? sid ≠ none → σ'.server.lockedSessions.at? sid ≠ none

instance : Decidable (Retains sid σ evs σ') := inferInstanceAs (Decidable (_ → _))

omit [DecidableEq Worker] [DecidableEq Caller] in
theorem SessionLocking.not_locked (hl : SessionLocking σ)
    (hd : (σ.caller c).deciding = some (sid, r)) :
    σ.server.lockedSessions.at? sid = none :=
  (hl.caller c sid (CallerPc.guarded_of_deciding hd)).2

omit [DecidableEq Worker] [DecidableEq Caller] in
theorem SessionLocking.caller_unique (hl : SessionLocking σ)
    (hd : (σ.caller c).deciding = some (sid, r))
    (hd' : (σ.caller c').deciding = some (sid', r')) : c = c' := by
  have h := (hl.caller c sid (CallerPc.guarded_of_deciding hd)).1
  have h' := (hl.caller c' sid' (CallerPc.guarded_of_deciding hd')).1
  rw [h] at h'
  exact Sum.inr.inj (Option.some.inj h')

omit [DecidableEq Worker] [DecidableEq Caller] in
theorem Decided.unique (hl : SessionLocking σ) (h : Decided σ sid r) (h' : Decided σ sid r') :
    r = r' := by
  rcases h with h | ⟨c, h⟩ <;> rcases h' with h' | ⟨c', h'⟩
  · rw [h] at h'
    exact Option.some.inj h'
  · rw [hl.not_locked h'] at h
    cases h
  · rw [hl.not_locked h] at h'
    cases h'
  · have he := hl.caller_unique h h'
    subst he
    rw [h] at h'
    exact (Prod.mk.inj (Option.some.inj h')).2

theorem Step.decided_before (h : Step cfg σ evs σ') (hl : SessionLocking σ)
    (he : σ'.server.lockedSessions.at? sid = some r) : Decided σ sid r := by
  cases h with
  | transport h => exact .inl (h.sameSessions.lockedSessions ▸ he)
  | worker w h => exact .inl (h.locked_before he)
  | caller c h =>
    rcases h.locked_before (hl.caller c) he with hb | hd
    · exact .inl hb
    · exact .inr ⟨c, hd⟩
  | control h => exact .inl (h.locked_before he)

theorem Decided.step (hr : Decided σ sid r) (hl : SessionLocking σ) (h : Step cfg σ evs σ')
    (hk : Retains sid σ evs σ') : Decided σ' sid r := by
  rcases hr with hr | ⟨c, hd⟩
  · have hn := hk (by rw [hr]; exact nofun)
    obtain ⟨r', hr'⟩ := Option.ne_none_iff_exists'.1 hn
    have he := Decided.unique hl (.inl hr) (h.decided_before hl hr')
    exact .inl (he ▸ hr')
  · cases h with
    | transport h | worker w h | control h => exact .inr ⟨c, hd⟩
    | caller c' h =>
      by_cases hc : c = c'
      · subst hc
        rcases h.deciding (hl.caller c) hd with hd' | hs
        · exact .inr ⟨c, by simpa only [Function.update_self] using hd'⟩
        · exact .inl hs
      · exact .inr ⟨c, by simpa only [Function.update_of_ne hc] using hd⟩

theorem Step.decides (h : Step cfg σ evs τ) (he : .completing sid r ∈ evs)
    (hn : τ.server.lockedSessions.at? sid = none) : Decided τ sid r := by
  cases h with
  | transport h | worker w h => exact (h.no_completing he).elim
  | caller c h =>
    refine .inr ⟨c, ?_⟩
    simpa only [Function.update_self] using h.decides he hn
  | control h => exact (h.no_completing he).elim

end WebGameServer
