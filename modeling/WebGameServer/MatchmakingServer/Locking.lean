import WebGameServer.BaseServer.Locking
import WebGameServer.MatchmakingServer.Loop

namespace WebGameServer
set_option autoImplicit true

section Points

variable {T : Traits} {Worker Callback : Type}

/-- The mutexes of `match_players` between two sections. -/
def MatchPc.keeps : MatchPc T → List Mutex
  | .testing | .returned | .locking | .checking | .waiting => []
  | .relocking => [.updates]
  | _ => [.games]

/-- The mutexes that the section of `match_players` with these events acquires. -/
def MatchPc.mutexes : MatchPc T → List (Event T) → MatchPc T → List Mutex
  | .locking, _, _ | .relocking, _, _ => [.games]
  | .checking, _, _ | .waiting, _, _ | .timing, _, .connecting _ _ => [.updates]
  | _, .completing _ _ :: _, _ => [.session]
  | _, .sending _ _ :: _, _ => [.connection]
  | _, _, _ => []

def MatchStopPc.mutexes : MatchStopPc → List Mutex
  | .stopping => [.action, .session, .connection]
  | .clearingSessions => [.games]
  | .clearingUpdates => [.updates]
  | .idle | .notifyingAll | .notifying => []

theorem MatchPc.length_mutexes (pc : MatchPc T) (evs : List (Event T)) (pc' : MatchPc T) :
    (pc.mutexes evs pc').length ≤ 1 := by
  unfold mutexes
  split <;> decide

theorem MatchPc.games_not_mem_mutexes {pc : MatchPc T} (h : pc.keeps = [.games])
    (evs : List (Event T)) (pc' : MatchPc T) : .games ∉ pc.mutexes evs pc' := by
  unfold mutexes
  split <;> first | decide | cases h

theorem MatchPc.keeps_of_holdsSessions {pc : MatchPc T} (h : pc.holdsSessions = true) :
    pc.keeps = [.games] := by
  cases pc <;> first | rfl | cases h

theorem MatchPc.inOrder (pc : MatchPc T) (evs : List (Event T)) (pc' : MatchPc T) :
    Sections.InOrder
      (Nests (.loop : ServerThread Worker Callback) (.loop pc .idle : Point T (MatchPc T) Stop))
      (pc.keeps ++ (CallerPc.idle : CallerPc T).keeps) (pc.mutexes evs pc') := by
  cases pc with
  | testing | returned | locking | checking | waiting =>
    exact Sections.inOrder_of_length (MatchPc.length_mutexes _ evs pc')
  | relocking => exact ⟨List.forall_mem_singleton.2 .relock, trivial⟩
  | _ =>
    exact inOrder_games (MatchPc.length_mutexes _ evs pc')
      (MatchPc.games_not_mem_mutexes rfl evs pc')

theorem MatchStopPc.inOrder (pc : MatchStopPc) :
    Sections.InOrder (Nests (.control : ServerThread Worker Callback) pt) [] pc.mutexes := by
  cases pc with
  | stopping => exact inOrder_clearAll
  | idle | notifyingAll | notifying => trivial
  | _ => exact Sections.inOrder_of_length (Nat.le_refl 1)

end Points

section Sections

variable {T : Traits} {D Worker Callback : Type} [DecidableEq Worker]

/-- The state as it is once `m_session_lock` is free. -/
def MatchmakingServer.unlocked (ms : MatchmakingServer T D Worker) :
    MatchmakingServer T D Worker :=
  { ms with base := { ms.base with server := { ms.base.server with sessionLock := none } } }

/-- The sections that a thread may start. A thread that waits for a condition may wake up at
any time. -/
inductive MatchBegins (cfg : Config T) (mm : Matchmaker T D) (timestep : Int) :
    MatchmakingServer T D Worker → ServerThread Worker Callback → List Mutex → Prop where
  | callback (c : Callback) : MatchBegins cfg mm timestep ms (.callback c) [.action]
  | worker (w : Worker) :
      MatchBegins cfg mm timestep ms (.worker w) ((ms.base.worker w).mutexes cfg .updates)
  | loop : ms.base.caller () = .idle → MatchStep cfg mm timestep ms.unlocked evs ms' →
      MatchBegins cfg mm timestep ms .loop (ms.loop.mutexes evs ms'.loop)
  | wake : ms.base.caller () = .idle → ms.loop = .waiting →
      MatchBegins cfg mm timestep ms .loop [.updates]
  | call : ms.base.caller () ≠ .idle →
      MatchBegins cfg mm timestep ms .loop (ms.base.caller ()).mutexes
  | control : MatchBegins cfg mm timestep ms .control ms.stop.mutexes

/-- The steps of the matchmaking server, by thread, with the mutexes that they take. A thread
that wakes up without reason waits again. -/
inductive MatchSection (cfg : Config T) (mm : Matchmaker T D) (timestep : Int) :
    MatchmakingServer T D Worker → ServerThread Worker Callback → List Mutex → List (Event T) →
    MatchmakingServer T D Worker → Prop where
  | callback (c : Callback) (h : TransportStep ms.base.server evs s) :
      MatchSection cfg mm timestep ms (.callback c) [.action] evs
        { ms with base := { ms.base with server := s, log := ms.base.log ++ evs } }
  | worker (w : Worker)
      (h : WorkerStep cfg (.inl w) ms.base.server (ms.base.worker w) evs s pc)
      (hfree : ms.loop.holdsUpdates = true → evs.filterMap Event.matchUpdate = []) :
      MatchSection cfg mm timestep ms (.worker w)
        ((ms.base.worker w).mutexes cfg .updates) evs
        { ms.handleAll evs with
          base := { ms.base with
            server := s
            worker := Function.update ms.base.worker w pc
            log := ms.base.log ++ evs } }
  | workerWaits (w : Worker) : ms.base.worker w = .waiting → ms.base.server.isRunning = true →
      ms.base.server.actions = [] →
      MatchSection cfg mm timestep ms (.worker w) [.action] [] ms
  | loop (hidle : ms.base.caller () = .idle) (h : MatchStep cfg mm timestep ms evs ms') :
      MatchSection cfg mm timestep ms .loop (ms.loop.mutexes evs ms'.loop) evs ms'
  | loopWaits : ms.base.caller () = .idle → ms.loop = .waiting →
      ms.base.server.isRunning = true → ms.connectionUpdates.1 = [] →
      MatchSection cfg mm timestep ms .loop [.updates] [] ms
  | call (hbusy : ms.base.caller () ≠ .idle)
      (h : CallerStep cfg (.inr ()) ms.base.server (ms.base.caller ()) evs s pc) :
      MatchSection cfg mm timestep ms .loop (ms.base.caller ()).mutexes evs
        (ms.called evs s pc)
  | run (hidle : ms.stop = .idle)
      (h : ControlStep ms.base.server ms.base.control [.running] s pc) :
      MatchSection cfg mm timestep ms .control [] [.running]
        { ms with
          base := { ms.base with
            server := s, control := pc, log := ms.base.log ++ [.running] } }
  | stop (h : MatchStopStep ms evs ms') :
      MatchSection cfg mm timestep ms .control ms.stop.mutexes evs ms'

theorem MatchSection.matchmakingStep {cfg : Config T} {mm : Matchmaker T D} {timestep : Int}
    {ms ms' : MatchmakingServer T D Worker} {t : ServerThread Worker Callback}
    (h : MatchSection cfg mm timestep ms t locks evs ms') :
    ms' = ms ∨ MatchmakingStep cfg mm timestep ms evs ms' := by
  cases h with
  | callback c h => exact .inr (.transport h)
  | worker w h hfree => exact .inr (.worker w h hfree)
  | workerWaits w hw hr ha => exact .inl rfl
  | loop hidle h => exact .inr (.loop hidle h)
  | loopWaits hidle hl hr hu => exact .inl rfl
  | call hbusy h => exact .inr (.call hbusy h)
  | run hidle h => exact .inr (.run h)
  | stop h => exact .inr (.stop h)

def MatchmakingServer.point (ms : MatchmakingServer T D Worker) :
    ServerThread Worker Callback → Point T (MatchPc T) MatchStopPc
  | .callback _ => .callback
  | .worker w => .worker (ms.base.worker w)
  | .loop => .loop ms.loop (ms.base.caller ())
  | .control => .control ms.stop ms.base.control

theorem MatchSection.frame {cfg : Config T} {mm : Matchmaker T D} {timestep : Int}
    {ms ms' : MatchmakingServer T D Worker} {t u : ServerThread Worker Callback}
    (h : MatchSection cfg mm timestep ms t locks evs ms') (hut : u ≠ t) :
    ms'.point u = ms.point u := by
  cases h with
  | callback c h => cases u <;> rfl
  | worker w h hfree =>
    cases u with
    | worker w' =>
      have hw : w' ≠ w := fun he => hut (he ▸ rfl)
      simp only [MatchmakingServer.point, Function.update_of_ne hw]
    | _ => rfl
  | workerWaits w hw hr ha => rfl
  | loop hidle h =>
    obtain ⟨hw, hc, hs⟩ := h.frame
    cases u with
    | callback c => rfl
    | worker w => simp only [MatchmakingServer.point, hw]
    | loop => exact (hut rfl).elim
    | control => simp only [MatchmakingServer.point, hc, hs]
  | loopWaits hidle hl hr hu => rfl
  | call hbusy h =>
    cases u with
    | loop => exact (hut rfl).elim
    | _ => rfl
  | run hidle h =>
    cases u with
    | control => exact (hut rfl).elim
    | _ => rfl
  | stop h =>
    cases u with
    | control => exact (hut rfl).elim
    | _ => cases h <;> rfl

/-- The matchmaking server as threads whose steps are sections under mutexes. -/
def matchSections (Callback : Type) (cfg : Config T) (mm : Matchmaker T D)
    (timestep : Int) :
    Sections (MatchmakingServer T D Worker) (ServerThread Worker Callback) Mutex
      (List (Event T)) where
  Point := Point T (MatchPc T) MatchStopPc
  point ms := ms.point
  keeps := Point.keeps MatchPc.keeps
  init ms := ∃ lastUpdate, ms = .start lastUpdate
  begins := MatchBegins cfg mm timestep
  step := MatchSection cfg mm timestep
  init_keeps ms t h := by
    obtain ⟨lastUpdate, rfl⟩ := h
    cases t <;> rfl
  frame ms t locks evs ms' u h hut := h.frame hut

variable {cfg : Config T} {mm : Matchmaker T D} {timestep : Int}
  {ms ms' : MatchmakingServer T D Worker}

theorem matchSections_reachable {ms : MatchmakingServer T D Worker}
    (h : (matchSections Callback cfg mm timestep).atomic.Reachable ms) :
    (matchmakingServer cfg mm timestep).Reachable ms := by
  refine LTS.Reachable.project (M := (matchSections Callback cfg mm timestep).atomic)
    (f := fun ms => ms) (fun h => h) (fun {ms evs ms'} _ hs => ?_) h
  obtain ⟨t, locks, hs⟩ := hs
  exact hs.matchmakingStep.imp_right fun hs => ⟨evs, hs⟩

theorem MatchBegins.inOrder {ms : MatchmakingServer T D Worker} {t : ServerThread Worker Callback}
    (hr : (matchmakingServer cfg mm timestep).Reachable ms)
    (h : MatchBegins cfg mm timestep ms t locks) :
    Sections.InOrder (Nests t (ms.point t)) ((ms.point t).keeps MatchPc.keeps) locks := by
  cases h with
  | callback c => exact Sections.inOrder_of_length (Nat.le_refl 1)
  | worker w => exact WorkerPc.inOrder _ cfg .updates
  | loop hidle h =>
    simp only [MatchmakingServer.point, hidle]
    exact MatchPc.inOrder _ _ _
  | wake hidle hl =>
    simp only [MatchmakingServer.point, hidle, hl]
    exact Sections.inOrder_of_length (Nat.le_refl 1)
  | call hbusy =>
    have hl : ms.loop.holdsSessions = true :=
      Bool.not_eq_false _ ▸ fun h => hbusy (idle_invariant.reachable hr h)
    have hk := MatchPc.keeps_of_holdsSessions hl
    simp only [MatchmakingServer.point, Point.keeps, hk]
    exact CallerPc.inOrder _ _
  | control => exact MatchStopPc.inOrder _

theorem matchmakingServer_not_deadlocked [DecidableEq Callback]
    {σ : Locked (MatchmakingServer T D Worker) (ServerThread Worker Callback) Mutex}
    (hσ : ((matchSections Callback cfg mm timestep).interleaving.restrict
      fun _ _ σ' => ¬ Overlapping MatchmakingServer.base σ').Reachable σ) : ¬ σ.Deadlocked := by
  have hfree : ¬ Overlapping MatchmakingServer.base σ := by
    apply hσ.holds fun {σ} h hover => ?_
    rw [Overlapping, h.2.1] at hover
    cases hover.1
  apply not_deadlocked_of_nests σ.state.point ?_ fun ⟨ha, hs, hc⟩ => hfree
    ⟨ha, hs, CallerPc.closesAhead hc _⟩
  intro t m n hw ho
  exact Sections.nests_of_waiting (S := matchSections Callback cfg mm timestep)
    (fun t (pt : Point T (MatchPc T) MatchStopPc) => Nests t pt)
    (fun ms t locks hr => MatchBegins.inOrder (matchSections_reachable hr)) hσ.of_restrict hw ho

end Sections

end WebGameServer
