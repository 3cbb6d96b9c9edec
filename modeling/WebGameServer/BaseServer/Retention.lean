import WebGameServer.BaseServer.Bindings
import WebGameServer.BaseServer.Results
import WebGameServer.Library.Expiry

namespace WebGameServer
set_option autoImplicit true

/-! How long a result stays in `m_locked_sessions`. -/

namespace BufferedMap

variable {K V : Type} [DecidableEq K] (m : BufferedMap K V)

/-- The map that holds the key, with 2 for none. -/
def generation (k : K) : Nat :=
  match m.map1.lookup k with
  | some _ => 0
  | none =>
    match m.map2.lookup k with
    | some _ => 1
    | none => 2

theorem contains_iff_generation (k : K) : m.contains k = true ↔ m.generation k < 2 := by
  rw [contains_eq, at?, generation]
  cases m.map1.lookup k with
  | some v => exact iff_of_true rfl Nat.two_pos
  | none =>
    cases m.map2.lookup k with
    | some v => exact iff_of_true rfl Nat.one_lt_two
    | none => exact iff_of_false Bool.noConfusion (Nat.lt_irrefl 2)

theorem generation_clear (k : K) : m.clear.generation k = min 2 (m.generation k + 1) := by
  have hempty : (∅ : Map K V).lookup k = none := rfl
  simp only [generation, clear, hempty]
  cases m.map1.lookup k with
  | some v => rfl
  | none => cases m.map2.lookup k <;> rfl

theorem generation_insert_ne (h : k' ≠ k) (v : V) :
    (m.insert k v).generation k' = m.generation k' := by
  simp only [generation, insert, Map.lookup_emplace, if_neg h]

theorem generation_insert_self (k : K) (v : V) : (m.insert k v).generation k = 0 := by
  simp only [generation, insert, Map.lookup_emplace, ↓reduceIte]

end BufferedMap

/-- The clock readings of a call, as a visit of the lock table. -/
def ClockReadings.visit (c : ClockReadings) : Int × Int := (c.first, c.second)

/-- The number of whole milliseconds since `t` at the first reading. -/
def ClockReadings.millisecondsSince (c : ClockReadings) (t : Int) : Int :=
  Period.elapsed 1000000 t c.visit

/-- The last reading of the clock that a call with the readings `c` takes. -/
def Server.lastReading {T : Traits} {Thread : Type} (s : Server T Thread) (releaseTime : Int)
    (c : ClockReadings) : Int :=
  if c.millisecondsSince s.lastSessionUpdateTime > releaseTime then c.second else c.first

section Local

variable {T : Traits} {Thread : Type} {cfg : Config T} {me : Thread} {s s' : Server T Thread}
  {p : Period}

theorem Server.updateSessionLocks_visit (hp : s.lastSessionUpdateTime = p.start)
    (hg : s.lockedSessions.generation sid = min 2 p.generation) :
    (s.updateSessionLocks r c).lastSessionUpdateTime = (p.visit 1000000 r c.visit).start ∧
      (s.updateSessionLocks r c).lockedSessions.generation sid =
        min 2 (p.visit 1000000 r c.visit).generation := by
  have helapsed : (c.first - s.lastSessionUpdateTime).tdiv 1000000 =
      Period.elapsed 1000000 p.start c.visit := by
    rw [hp]
    rfl
  simp only [Server.updateSessionLocks, helapsed]
  by_cases hlate : r < Period.elapsed 1000000 p.start c.visit
  · rw [if_pos hlate, Period.visit_late hlate]
    refine ⟨rfl, ?_⟩
    by_cases htwice : 2 * r < Period.elapsed 1000000 p.start c.visit
    · simp only [gt_iff_lt, htwice, ↓reduceIte, BufferedMap.generation_clear, hg]
      omega
    · simp only [gt_iff_lt, htwice, ↓reduceIte, BufferedMap.generation_clear, hg]
      omega
  · rw [if_neg hlate, Period.visit_early (not_lt.1 hlate)]
    exact ⟨hp, hg⟩

/-- The data of the lock table are the same in both states. -/
def SameTable (s s' : Server T Thread) : Prop :=
  s'.lockedSessions = s.lockedSessions ∧ s'.lastSessionUpdateTime = s.lastSessionUpdateTime

/-- The worker runs `open_session` for a token that verifies. -/
def WorkerPc.Opens (cfg : Config T) (pc pc' : WorkerPc T) : Prop :=
  ∃ hdl token, pc = .opening hdl token ∧ pc' ≠ .opening hdl token ∧
    (cfg.verify token).isSome = true

theorem WorkerStep.table (h : WorkerStep cfg me s pc evs s' pc') :
    (SameTable s s' ∧ ¬ pc.Opens cfg pc') ∨ s.sessionLock = none ∧ pc.Opens cfg pc' := by
  cases h with
  | lockedSession c hv hn hr =>
    refine .inr ⟨hn, _, _, rfl, ?_, by rw [hv]; rfl⟩
    intro he
    cases he
  | openSession c hv hn hl =>
    refine .inr ⟨hn, _, _, rfl, ?_, by rw [hv]; rfl⟩
    intro he
    cases he
  | invalidToken hv =>
    refine .inl ⟨⟨rfl, rfl⟩, ?_⟩
    rintro ⟨hdl, token, he, -, hs⟩
    cases he
    rw [hv] at hs
    cases hs
  | setupConnectionId =>
    refine .inl ⟨⟨s.setupConnectionId_lockedSessions, ?_⟩, ?_⟩
    · rw [Server.setupConnectionId_eq]
    · rintro ⟨_, _, he, -⟩
      cases he
  | disconnectSession hn =>
    refine .inl ⟨⟨s.disconnectSession_lockedSessions, ?_⟩, ?_⟩
    · simp only [Server.disconnectSession]
      split <;> rfl
    · rintro ⟨_, _, he, -⟩
      cases he
  | _ =>
    refine .inl ⟨⟨rfl, rfl⟩, ?_⟩
    rintro ⟨_, _, he, -⟩
    cases he

/-- What a step of `complete_session` or `send_message` does to the lock table. -/
theorem CallerStep.table (h : CallerStep cfg me s pc evs s' pc') :
    (SameTable s s' ∧ pc'.deciding = pc.deciding ∧ ∀ sid r, .completing sid r ∉ evs) ∨
    (∃ sid r, pc.deciding = some (sid, r) ∧ pc'.deciding = none ∧
      s'.lockedSessions = s.lockedSessions.insert sid r ∧
      s'.lastSessionUpdateTime = s.lastSessionUpdateTime ∧ ∀ sid r, .completing sid r ∉ evs) ∨
    ∃ sid r, s.sessionLock = none ∧ evs = [.completing sid r] ∧ pc.deciding = none ∧
      ∀ x, pc'.deciding = some x → x = (sid, r) ∧ s'.isLocked sid = false := by
  cases h with
  | completeLocked c sid r hn hl => exact .inr (.inr ⟨sid, r, hn, rfl, rfl, nofun⟩)
  | completeSession c sid r hn hl =>
    refine .inr (.inr ⟨sid, r, hn, rfl, rfl, fun x hx => ?_⟩)
    exact ⟨(Option.some.inj hx).symm, hl⟩
  | lockSession => exact .inr (.inl ⟨_, _, rfl, rfl, rfl, rfl, fun _ _ => List.not_mem_nil⟩)
  | _ =>
    refine .inl ⟨⟨rfl, rfl⟩, rfl, fun sid r => ?_⟩
    simp only [List.mem_cons, reduceCtorEq, List.not_mem_nil, or_false, not_false_eq_true]

theorem ControlStep.table (h : ControlStep s pc evs s' pc') (hn : .stopping ∉ evs) :
    SameTable s s' := by
  cases h with
  | run hr => exact ⟨rfl, rfl⟩
  | stop hr | clearAll hl | notifyAll => exact (hn List.mem_cons_self).elim

theorem TransportStep.table (h : TransportStep s evs s') : SameTable s s' := by
  cases h <;> exact ⟨rfl, rfl⟩

end Local

section Run

variable {T : Traits} {Worker Caller : Type} [DecidableEq Worker] [DecidableEq Caller]
  {cfg : Config T} {σ σ' τ τ' : System T Worker Caller} {sid : T.SessionId} {p : Period}

theorem WorkerPc.not_opens_self (pc : WorkerPc T) : ¬ pc.Opens cfg pc := by
  rintro ⟨hdl, token, he, hne, -⟩
  exact hne he

/-- The step is the call of `update_session_locks` in `complete_session` or `open_session`. -/
def IsCall (cfg : Config T) (σ : System T Worker Caller) (evs : List (Event T))
    (σ' : System T Worker Caller) : Prop :=
  (∃ sid r, .completing sid r ∈ evs) ∨ ∃ w, (σ.worker w).Opens cfg (σ'.worker w)

/-- The clock readings of the step: those of its call, if it is one. -/
inductive Reads (cfg : Config T) (σ : System T Worker Caller) (evs : List (Event T))
    (σ' : System T Worker Caller) : List ClockReadings → Prop where
  | call (c : ClockReadings) : IsCall cfg σ evs σ' →
      SameTable (σ.server.updateSessionLocks cfg.sessionReleaseTime c) σ'.server →
      Reads cfg σ evs σ' [c]
  | other : ¬ IsCall cfg σ evs σ' → Reads cfg σ evs σ' []

/-- The server without `stop`, with the clock readings of each step beside its events. -/
def clockedServer (cfg : Config T) :
    LTS (System T Worker Caller) (List (Event T) × List ClockReadings) where
  init := (baseServer cfg).init
  step σ l σ' := Step cfg σ l.1 σ' ∧ .stopping ∉ l.1 ∧ Reads cfg σ l.1 σ' l.2

theorem clocked_quiet (h : Step cfg σ evs σ') (hs : .stopping ∉ evs)
    (hc : ∀ sid r, .completing sid r ∉ evs) (hw : σ'.worker = σ.worker) :
    (clockedServer cfg).step σ (evs, []) σ' := by
  refine ⟨h, hs, .other ?_⟩
  rintro (⟨sid, r, hm⟩ | ⟨w, ho⟩)
  · exact hc sid r hm
  · rw [hw] at ho
    exact WorkerPc.not_opens_self _ ho

theorem clocked_complete (h : Step cfg σ [.completing sid r] σ')
    (hs : SameTable (σ.server.updateSessionLocks cfg.sessionReleaseTime c) σ'.server) :
    (clockedServer cfg).step σ ([.completing sid r], [c]) σ' := by
  refine ⟨h, fun hm => ?_, .call c (.inl ⟨sid, r, List.mem_singleton.2 rfl⟩) hs⟩
  cases List.mem_singleton.1 hm

theorem clocked_reachable (h : (clockedServer cfg).Reachable σ) :
    (baseServer cfg).Reachable σ := by
  induction h with
  | init h0 => exact .init h0
  | step hr hs ih => exact ih.step hs.1

/-- The entry of a session since `complete_session` found it unlocked: the call in progress
will insert it, or its map is the one that the visits of the table since then have left it in. -/
structure Aged (sid : T.SessionId) (p : Period) (σ : System T Worker Caller) : Prop where
  start : σ.server.lastSessionUpdateTime = p.start
  entry : (p.generation = 0 ∧ ∃ k r, (σ.caller k).deciding = some (sid, r)) ∨
    (σ.server.lockedSessions.generation sid = min 2 p.generation ∧
      ∀ k r, (σ.caller k).deciding ≠ some (sid, r))

omit [DecidableEq Worker] [DecidableEq Caller] in
theorem Aged.visit (h : Aged sid p σ) (hl : SessionLocking σ)
    (hn : σ.server.sessionLock = none)
    (hs : SameTable (σ.server.updateSessionLocks cfg.sessionReleaseTime c) σ'.server) :
    σ'.server.lastSessionUpdateTime =
        (p.visit 1000000 cfg.sessionReleaseTime c.visit).start ∧
      σ'.server.lockedSessions.generation sid =
        min 2 (p.visit 1000000 cfg.sessionReleaseTime c.visit).generation ∧
      ∀ k x, (σ.caller k).deciding ≠ some x := by
  have hidle : ∀ k x, (σ.caller k).deciding ≠ some x := by
    rintro k ⟨sid', r⟩ hd
    have hheld := (hl.caller k sid' (CallerPc.guarded_of_deciding hd)).1
    rw [hn] at hheld
    cases hheld
  rcases h.entry with ⟨-, k, r, hd⟩ | ⟨hg, -⟩
  · exact (hidle k _ hd).elim
  · rw [hs.1, hs.2]
    obtain ⟨hstart, hgen⟩ := σ.server.updateSessionLocks_visit h.start hg
    exact ⟨hstart, hgen, hidle⟩

theorem IsCall.lock_free (hc : IsCall cfg σ evs σ') (h : Step cfg σ evs σ') :
    σ.server.sessionLock = none := by
  rcases hc with ⟨sid, r, hm⟩ | ⟨w, ho⟩
  · cases h with
    | transport h | worker w h | control h => exact (h.no_completing hm).elim
    | caller k h =>
      rcases h.table with ⟨-, -, hno⟩ | ⟨_, _, -, -, -, -, hno⟩ | ⟨_, _, hn, -⟩
      · exact (hno sid r hm).elim
      · exact (hno sid r hm).elim
      · exact hn
  · cases h with
    | transport h | caller k h | control h => exact (WorkerPc.not_opens_self _ ho).elim
    | worker w' h =>
      by_cases hw : w = w'
      · subst hw
        simp only [Function.update_self] at ho
        exact (h.table.resolve_left fun hs => hs.2 ho).1
      · simp only [Function.update_of_ne hw] at ho
        exact (WorkerPc.not_opens_self _ ho).elim

omit [DecidableEq Worker] [DecidableEq Caller] in
theorem Aged.same (h : Aged sid p σ) (hs : SameTable σ.server σ'.server)
    (hc : ∀ k, (σ'.caller k).deciding = (σ.caller k).deciding) : Aged sid p σ' where
  start := hs.2.trans h.start
  entry := by
    simp only [hc, hs.1]
    exact h.entry

omit [DecidableEq Worker] in
/-- The end of a call of `complete_session`, for this session or for another one. -/
theorem Aged.insert (h : Aged sid p σ) (hl : SessionLocking σ)
    (hd : (σ.caller k).deciding = some (sid', r)) (hd' : pc'.deciding = none)
    (hi : s.lockedSessions = σ.server.lockedSessions.insert sid' r)
    (hs : s.lastSessionUpdateTime = σ.server.lastSessionUpdateTime) :
    Aged sid p { σ with
      server := s, caller := Function.update σ.caller k pc', log := log' } := by
  refine ⟨hs.trans h.start, .inr ?_⟩
  rcases h.entry with ⟨hp, k₀, r₀, hd₀⟩ | ⟨hg, hnone⟩
  · obtain rfl := hl.caller_unique hd hd₀
    rw [hd] at hd₀
    cases hd₀
    constructor
    · simp only [hi, BufferedMap.generation_insert_self, hp]
      rfl
    · intro k' r'
      by_cases hk : k' = k
      · subst hk
        simp only [Function.update_self, hd', ne_eq, reduceCtorEq, not_false_eq_true]
      · simp only [Function.update_of_ne hk]
        exact fun he => hk (hl.caller_unique he hd)
  · have hne : sid ≠ sid' := fun he => hnone k r (he ▸ hd)
    constructor
    · simp only [hi, BufferedMap.generation_insert_ne _ hne]
      exact hg
    · intro k' r'
      by_cases hk : k' = k
      · subst hk
        simp only [Function.update_self, hd', ne_eq, reduceCtorEq, not_false_eq_true]
      · simp only [Function.update_of_ne hk]
        exact hnone k' r'

theorem Aged.step (h : Aged sid p σ) (hl : SessionLocking σ)
    (hstep : (clockedServer cfg).step σ l σ')
    (hkeep : ∀ r, .completing sid r ∈ l.1 → σ'.server.isLocked sid = true) :
    Aged sid ((l.2.map ClockReadings.visit).foldl
      (Period.visit 1000000 cfg.sessionReleaseTime) p) σ' := by
  obtain ⟨evs, cs⟩ := l
  obtain ⟨hs, hstop, hreads⟩ := hstep
  cases hreads with
  | call c hc hsame =>
    obtain ⟨hstart, hgen, hidle⟩ := h.visit hl (hc.lock_free hs) hsame
    refine ⟨hstart, .inr ⟨hgen, fun k r hd => ?_⟩⟩
    cases hs with
    | transport hs | worker w hs | control hs => exact hidle k _ hd
    | caller k' hs =>
      by_cases hk : k = k'
      · subst hk
        simp only [Function.update_self] at hd
        rcases hs.table with ⟨-, he, -⟩ | ⟨_, _, -, he, -⟩ | ⟨sid', r', -, he, -, hnew⟩
        · exact hidle k _ (he ▸ hd)
        · rw [he] at hd
          cases hd
        · obtain ⟨hx, hunlocked⟩ := hnew _ hd
          cases hx
          rw [hkeep r (he ▸ List.mem_singleton.2 rfl)] at hunlocked
          cases hunlocked
      · simp only [Function.update_of_ne hk] at hd
        exact hidle k _ hd
  | other hn =>
    cases hs with
    | transport hs => exact h.same hs.table fun k => rfl
    | control hs => exact h.same (hs.table hstop) fun k => rfl
    | worker w hs =>
      refine h.same (hs.table.resolve_right fun ho => hn (.inr ⟨w, ?_⟩)).1 fun k => rfl
      simp only [Function.update_self]
      exact ho.2
    | caller k hs =>
      rcases hs.table with ⟨hsame, he, -⟩ | ⟨sid', r, hd, hd', hi, ht, -⟩ | ⟨sid', r, -, he, -⟩
      · apply h.same hsame
        intro k'
        by_cases hk : k' = k
        · subst hk
          simp only [Function.update_self]
          exact he
        · simp only [Function.update_of_ne hk]
      · exact h.insert hl hd hd' hi ht
      · exact (hn (.inl ⟨sid', r, he ▸ List.mem_singleton.2 rfl⟩)).elim

def readings (ls : List (List (Event T) × List ClockReadings)) : List ClockReadings :=
  ls.flatMap Prod.snd

def InTime (cs : List ClockReadings) : Prop := Period.InOrder (cs.map ClockReadings.visit)

theorem foldl_readings (ls : List (List (Event T) × List ClockReadings)) (u r : Int)
    (p : Period) :
    ls.foldl (fun p l => (l.2.map ClockReadings.visit).foldl (Period.visit u r) p) p =
      ((readings ls).map ClockReadings.visit).foldl (Period.visit u r) p := by
  induction ls generalizing p with
  | nil => rfl
  | cons l ls ih =>
    rw [List.foldl_cons, ih, readings, readings, List.flatMap_cons, List.map_append,
      List.foldl_append]

omit [DecidableEq Worker] [DecidableEq Caller] in
theorem Reads.table (h : Reads cfg σ evs σ' [c]) : IsCall cfg σ evs σ' ∧
    SameTable (σ.server.updateSessionLocks cfg.sessionReleaseTime c) σ'.server := by
  cases h with
  | call _ hc hs => exact ⟨hc, hs⟩

theorem Aged.first (hstep : (clockedServer cfg).step σ (evs, [c]) σ')
    (hm : .completing sid r ∈ evs) (hnew : σ'.server.isLocked sid = false) :
    Aged sid ⟨σ'.server.lastSessionUpdateTime, 0⟩ σ' := by
  have hnone := BufferedMap.at?_of_not_contains _ hnew
  rcases hstep.1.decides hm hnone with hd | ⟨k, hd⟩
  · rw [hnone] at hd
    cases hd
  · exact ⟨rfl, .inl ⟨rfl, k, r, hd⟩⟩

theorem Aged.locked_iff (h : Aged sid p σ) (hl : SessionLocking σ)
    (hstep : (clockedServer cfg).step σ (evs, [c]) σ') :
    σ'.server.isLocked sid = true ↔
      (p.visit 1000000 cfg.sessionReleaseTime c.visit).generation < 2 := by
  obtain ⟨hs, -, hreads⟩ := hstep
  obtain ⟨hcall, hsame⟩ := hreads.table
  obtain ⟨-, hgen, -⟩ := h.visit hl (hcall.lock_free hs) hsame
  rw [Server.isLocked, BufferedMap.contains_iff_generation, hgen]
  omega

/-- As long as the entry is not moved out, no call inserts the session again. -/
theorem Aged.keeps (h : Aged sid p σ) (hl : SessionLocking σ)
    (hstep : (clockedServer cfg).step σ l σ')
    (hgen : ((l.2.map ClockReadings.visit).foldl
      (Period.visit 1000000 cfg.sessionReleaseTime) p).generation < 2)
    (hm : .completing sid r ∈ l.1) : σ'.server.isLocked sid = true := by
  obtain ⟨evs, cs⟩ := l
  have hreads := hstep.2.2
  cases hreads with
  | call c hc hs => exact (h.locked_iff hl hstep).2 hgen
  | other hn => exact (hn (.inl ⟨sid, r, hm⟩)).elim

omit [DecidableEq Worker] [DecidableEq Caller] in
theorem Reads.young (h : Reads cfg σ evs σ' [c]) (hR : 0 ≤ cfg.sessionReleaseTime) :
    Period.Young 1000000 cfg.sessionReleaseTime
      (σ.server.lastReading cfg.sessionReleaseTime c)
      ⟨σ'.server.lastSessionUpdateTime, 0⟩ := by
  obtain ⟨-, hs⟩ := h.table
  refine .inl ⟨rfl, ?_⟩
  rw [hs.2]
  simp only [Server.lastReading, Server.updateSessionLocks]
  have helapsed : c.millisecondsSince σ.server.lastSessionUpdateTime =
    (c.first - σ.server.lastSessionUpdateTime).tdiv 1000000 := rfl
  rw [helapsed]
  split
  · simp only [Int.sub_self, Int.zero_tdiv]
    exact hR
  · next hearly => exact not_lt.1 hearly

theorem InTime.lastReading_le {s : Server T Thread} (h : InTime (c :: cs)) (hw : c' ∈ cs) :
    s.lastReading r c ≤ c'.first := by
  have hboth : c.first ≤ c.second := Period.InOrder.readings h List.mem_cons_self
  have hle : c.second ≤ c'.first := Period.InOrder.head_le h (List.mem_map_of_mem hw)
  rw [Server.lastReading]
  split
  · exact hle
  · exact Int.le_trans hboth hle

/-- Without `stop`, for every value of `m_last_session_update_time` and every release time that
is not negative: a session that `complete_session` finds unlocked and inserts is found locked by
each later call within the release time. -/
theorem results_retained (hR : 0 ≤ cfg.sessionReleaseTime)
    (hσ : (clockedServer cfg).Reachable σ)
    (hinsert : (clockedServer cfg).step σ (evs, [c]) σ') (hm : .completing sid r ∈ evs)
    (hnew : σ'.server.isLocked sid = false)
    (hrun : (clockedServer cfg).Run σ' ls τ)
    (hcall : (clockedServer cfg).step τ (evs', [c']) τ')
    (horder : InTime (c :: (readings ls ++ [c'])))
    (ht : c'.first - σ.server.lastReading cfg.sessionReleaseTime c ≤
      cfg.sessionReleaseTime * 1000000) :
    τ'.server.isLocked sid = true := by
  have hσ' := hσ.step hinsert
  have hlocking {τ : System T Worker Caller} (hτ : (clockedServer cfg).Reachable τ) :
      SessionLocking τ := sessionLocking_invariant.reachable (clocked_reachable hτ)
  have hwindow : ∀ d ∈ readings ls ++ [c'],
      σ.server.lastReading cfg.sessionReleaseTime c ≤ d.first ∧ d.first ≤ d.second ∧
        d.first - σ.server.lastReading cfg.sessionReleaseTime c ≤
          cfg.sessionReleaseTime * 1000000 := by
    intro d hd
    have htail : Period.InOrder ((readings ls ++ [c']).map ClockReadings.visit) :=
      Period.InOrder.tail horder
    have hboth : d.first ≤ d.second := htail.readings (List.mem_map_of_mem hd)
    have hlast : d.first ≤ c'.first := by
      have hmem : d.visit ∈ (readings ls).map ClockReadings.visit ++ [c'.visit] := by
        rw [← List.map_singleton, ← List.map_append]
        exact List.mem_map_of_mem hd
      rw [List.map_append] at htail
      exact htail.le_last hmem
    exact ⟨horder.lastReading_le hd, hboth, by omega⟩
  have hkept := hrun.fold (f := fun p l => (l.2.map ClockReadings.visit).foldl
      (Period.visit 1000000 cfg.sessionReleaseTime) p)
    (I := fun p τ => (clockedServer cfg).Reachable τ ∧ Aged sid p τ ∧
      Period.Young 1000000 cfg.sessionReleaseTime
        (σ.server.lastReading cfg.sessionReleaseTime c) p) ?_
    ⟨hσ', .first hinsert hm hnew, hinsert.2.2.young hR⟩
  · obtain ⟨hτ, haged, hyoung⟩ := hkept
    obtain ⟨hfrom, hboth, hto⟩ :=
      hwindow c' (List.mem_append_right _ (List.mem_singleton.2 rfl))
    have hyoung' := hyoung.visit (v := c'.visit) (by decide) hR hfrom hboth hto
    exact (haged.locked_iff (hlocking hτ) hcall).2 hyoung'.generation
  · rintro p τ l τ' hl ⟨hτ, haged, hyoung⟩ hstep
    have hyoung' : Period.Young 1000000 cfg.sessionReleaseTime
        (σ.server.lastReading cfg.sessionReleaseTime c)
        ((l.2.map ClockReadings.visit).foldl
          (Period.visit 1000000 cfg.sessionReleaseTime) p) := by
      apply hyoung.foldl (by decide) hR
      intro v hv
      obtain ⟨d, hd, rfl⟩ := List.mem_map.1 hv
      exact hwindow d (List.mem_append_left _ (List.mem_flatMap.2 ⟨l, hl, hd⟩))
    exact ⟨hτ.step hstep, haged.step (hlocking hτ) hstep
      fun r => haged.keeps (hlocking hτ) hstep hyoung'.generation, hyoung'⟩

/-- A call one hour after the completion of session 7 still finds its result. -/
theorem results_retained_hour :
    ∃ τ : System natTraits Unit Unit, τ.server.isLocked 7 = true ∧
      τ.server.lastSessionUpdateTime = 0 := by
  have h0 : (clockedServer natConfig).Reachable (System.start 0 : System natTraits Unit Unit) :=
    .init ⟨0, rfl⟩
  have h1 := h0.step (clocked_quiet (.control (.run rfl)) (by simp) (by simp) rfl)
  have hlocked := results_retained (by decide) h1
    (clocked_complete (c := ⟨0, 0⟩)
      (.caller () (.completeSession ⟨0, 0⟩ (7 : Nat) ⟨(7 : Nat), (1 : Nat)⟩ rfl rfl)) ⟨rfl, rfl⟩)
    (List.mem_singleton.2 rfl) rfl
    (.cons (clocked_quiet (.caller () .lockSession) (by simp) (by simp) rfl) .nil)
    (clocked_complete (c := ⟨3600000000000, 3600000000000⟩)
      (.caller () (.completeSession ⟨3600000000000, 3600000000000⟩ (9 : Nat)
        ⟨(9 : Nat), (1 : Nat)⟩ rfl rfl)) ⟨rfl, rfl⟩)
    (by simp [InTime, Period.InOrder, readings, ClockReadings.visit]) (by decide)
  exact ⟨_, hlocked, rfl⟩

/-- No call in the step is about to insert the session again. -/
def NotInserted (sid : T.SessionId) (_ : System T Worker Caller)
    (l : List (Event T) × List ClockReadings) (σ' : System T Worker Caller) : Prop :=
  ∀ r, .completing sid r ∈ l.1 → σ'.server.isLocked sid = true

/-- The first call that comes more than the release time after `start` comes more than twice the
release time after it, or more than the release time before the call `c'`. -/
def Released (releaseTime start : Int) (cs : List ClockReadings) (c' : ClockReadings) : Prop :=
  Period.Overdue 1000000 releaseTime start (cs.map ClockReadings.visit) c'.visit

/-- A later call finds a session that was inserted, and not inserted again, unlocked if and only
if the calls since then have released it. -/
theorem Aged.unlocked_iff_released (hR : 0 ≤ cfg.sessionReleaseTime)
    (haged : Aged sid ⟨t, 0⟩ σ) (hσ : (clockedServer cfg).Reachable σ)
    (hrun : ((clockedServer cfg).restrict (NotInserted sid)).Run σ ls τ)
    (hcall : (clockedServer cfg).step τ (evs', [c']) τ') (horder : InTime (readings ls ++ [c'])) :
    τ'.server.isLocked sid = false ↔ Released cfg.sessionReleaseTime t (readings ls) c' := by
  have hlocking {τ : System T Worker Caller} (hτ : (clockedServer cfg).Reachable τ) :
      SessionLocking τ := sessionLocking_invariant.reachable (clocked_reachable hτ)
  have hkept := hrun.fold (f := fun p l => (l.2.map ClockReadings.visit).foldl
      (Period.visit 1000000 cfg.sessionReleaseTime) p)
    (I := fun p τ => (clockedServer cfg).Reachable τ ∧ Aged sid p τ) ?_ ⟨hσ, haged⟩
  · obtain ⟨hτ, haged⟩ := hkept
    rw [foldl_readings] at haged
    have hlocked := haged.locked_iff (hlocking hτ) hcall
    rw [← Bool.not_eq_true, hlocked, Nat.not_lt, Released, ← Period.moved_out_iff_overdue
      (by decide) hR, List.foldl_append]
    · rfl
    · rw [InTime, List.map_append] at horder
      exact horder
  · rintro p τ l τ' hl ⟨hτ, haged⟩ ⟨hstep, hnot⟩
    exact ⟨hτ.step hstep, haged.step (hlocking hτ) hstep hnot⟩

/-- Without `stop`: for a session that `complete_session` finds unlocked and inserts, and that
is not inserted again, a later call meets the bound of two release times if and only if the calls
since then have released the session. -/
theorem results_released_iff (hR : 1 ≤ cfg.sessionReleaseTime)
    (hσ : (clockedServer cfg).Reachable σ)
    (hinsert : (clockedServer cfg).step σ (evs, [c]) σ') (hm : .completing sid r ∈ evs)
    (hnew : σ'.server.isLocked sid = false)
    (hrun : ((clockedServer cfg).restrict (NotInserted sid)).Run σ' ls τ)
    (hcall : (clockedServer cfg).step τ (evs', [c']) τ')
    (horder : InTime (c :: (readings ls ++ [c']))) :
    (2 * cfg.sessionReleaseTime <
        c'.millisecondsSince (σ.server.lastReading cfg.sessionReleaseTime c) →
      τ'.server.isLocked sid = false) ↔
    (2 * cfg.sessionReleaseTime <
        c'.millisecondsSince (σ.server.lastReading cfg.sessionReleaseTime c) →
      Released cfg.sessionReleaseTime σ'.server.lastSessionUpdateTime (readings ls) c') := by
  have haged := Aged.first hinsert hm hnew
  have hiff := haged.unlocked_iff_released (Int.le_trans (by decide) hR) (hσ.step hinsert) hrun
    hcall (Period.InOrder.tail horder)
  rw [hiff]

end Run

/-- A single call two hours and a millisecond after the completion of session 7 releases it. -/
theorem results_released_iff_double :
    ∃ τ : System natTraits Unit Unit, τ.server.isLocked 7 = false ∧
      .completing (7 : Nat) ⟨(7 : Nat), (1 : Nat)⟩ ∈ τ.log := by
  have h0 : (clockedServer natConfig).Reachable (System.start 0 : System natTraits Unit Unit) :=
    .init ⟨0, rfl⟩
  have h1 := h0.step (clocked_quiet (.control (.run rfl)) (by simp) (by simp) rfl)
  have hreleased := results_released_iff (by decide) h1
    (clocked_complete (c := ⟨0, 0⟩)
      (.caller () (.completeSession ⟨0, 0⟩ (7 : Nat) ⟨(7 : Nat), (1 : Nat)⟩ rfl rfl)) ⟨rfl, rfl⟩)
    (List.mem_singleton.2 rfl) rfl
    (.cons ⟨clocked_quiet (.caller () .lockSession) (by simp) (by simp) rfl, by simp [NotInserted]⟩
      .nil)
    (clocked_complete (c := ⟨7200001000000, 7200001000000⟩)
      (.caller () (.completeSession ⟨7200001000000, 7200001000000⟩ (9 : Nat)
        ⟨(9 : Nat), (1 : Nat)⟩ rfl rfl)) ⟨rfl, rfl⟩)
    (by simp [InTime, Period.InOrder, readings, ClockReadings.visit])
  refine ⟨_, hreleased.2 (fun _ => ⟨[], _, [], rfl, List.forall_mem_nil _, ?_, .inl ?_⟩) ?_, ?_⟩
  · decide
  · decide
  · decide
  · exact List.mem_append_left _ (List.mem_append_left _
      (List.mem_append_right _ (List.mem_singleton.2 rfl)))

/-- Session 7 is completed when a period begins. A call two hours later moves it to the second
map, which begins a new period, and a call one millisecond after that still finds it. -/
theorem result_outlives_two_periods :
    ∃ (σ σ' τ τ' : System natTraits Unit Unit)
      (ls : List (List (Event natTraits) × List ClockReadings)) (c c' : ClockReadings),
      (clockedServer natConfig).Reachable σ ∧
      (clockedServer natConfig).step σ
        ([.completing (7 : Nat) ⟨(7 : Nat), (1 : Nat)⟩], [c]) σ' ∧
      σ'.server.isLocked 7 = false ∧
      ((clockedServer natConfig).restrict (NotInserted (7 : Nat))).Run σ' ls τ ∧
      (clockedServer natConfig).step τ
        ([.completing (9 : Nat) ⟨(9 : Nat), (1 : Nat)⟩], [c']) τ' ∧
      InTime (c :: (readings ls ++ [c'])) ∧
      2 * natConfig.sessionReleaseTime <
        c'.millisecondsSince (σ.server.lastReading natConfig.sessionReleaseTime c) ∧
      τ'.server.isLocked 7 = true := by
  have h0 : (clockedServer natConfig).Reachable (System.start 0 : System natTraits Unit Unit) :=
    .init ⟨0, rfl⟩
  have h1 := h0.step (clocked_quiet (.control (.run rfl)) (by simp) (by simp) rfl)
  refine ⟨_, _, _, _, _, ⟨0, 0⟩, ⟨7200001000000, 7200001000000⟩, h1,
    clocked_complete (.caller () (.completeSession ⟨0, 0⟩ _ _ rfl rfl)) ⟨rfl, rfl⟩, rfl,
    .cons ⟨clocked_quiet (.caller () .lockSession) (by simp) (by simp) rfl, by simp [NotInserted]⟩
      (.cons ⟨clocked_complete (.caller () (.completeSession ⟨7200000000000, 7200000000000⟩
          (8 : Nat) ⟨(8 : Nat), (1 : Nat)⟩ rfl rfl)) ⟨rfl, rfl⟩, by simp [NotInserted]⟩
        (.cons ⟨clocked_quiet (.caller () .lockSession) (by simp) (by simp) rfl,
          by simp [NotInserted]⟩ .nil)),
    clocked_complete
      (.caller () (.completeSession ⟨7200001000000, 7200001000000⟩ _ _ rfl rfl)) ⟨rfl, rfl⟩,
    ?_, ?_, ?_⟩
  · simp [InTime, Period.InOrder, readings, ClockReadings.visit]
  · decide
  · rfl

end WebGameServer
