import WebGameServer.BaseServer.Locking
import WebGameServer.GameServer.Loop

namespace WebGameServer
set_option autoImplicit true

section Points

variable {T : Traits} {Worker Callback : Type}

/-- The mutexes of `update_games` between two sections. -/
def GamePc.keeps : GamePc T → List Mutex
  | .testing | .returned | .locking _ | .checking _ | .waiting _ => []
  | .relocking _ => [.updates]
  | _ => [.games]

/-- The mutexes that the section of `update_games` with these events acquires. -/
def GamePc.mutexes : GamePc T → List (Event T) → GamePc T → List Mutex
  | .locking _, _, _ | .relocking _, _, _ => [.games]
  | .checking _, _, _ | .waiting _, _, _ | .timing _, _, .connecting _ _ => [.updates]
  | .updating _, _, _ => [.messages]
  | _, .completing _ _ :: _, _ => [.session]
  | _, .sending _ _ :: _, _ => [.connection]
  | _, _, _ => []

def GameStopPc.mutexes : GameStopPc → List Mutex
  | .stopping => [.action, .session, .connection]
  | .clearingGames => [.games]
  | .clearingMessages => [.messages]
  | .clearingUpdates => [.updates]
  | .idle | .notifyingAll | .notifying | .clearingCount => []

theorem GamePc.length_mutexes (pc : GamePc T) (evs : List (Event T)) (pc' : GamePc T) :
    (pc.mutexes evs pc').length ≤ 1 := by
  unfold mutexes
  split <;> decide

theorem GamePc.games_not_mem_mutexes {pc : GamePc T} (h : pc.keeps = [.games])
    (evs : List (Event T)) (pc' : GamePc T) : .games ∉ pc.mutexes evs pc' := by
  unfold mutexes
  split <;> first | decide | cases h

theorem GamePc.inOrder (pc : GamePc T) (evs : List (Event T)) (pc' : GamePc T) :
    Sections.InOrder
      (Nests (.loop : ServerThread Worker Callback) (.loop pc .idle : Point T (GamePc T) Stop))
      (pc.keeps ++ (CallerPc.idle : CallerPc T).keeps) (pc.mutexes evs pc') := by
  cases pc with
  | testing | returned | locking t | checking t | waiting t =>
    exact Sections.inOrder_of_length (GamePc.length_mutexes _ evs pc')
  | relocking t => exact ⟨List.forall_mem_singleton.2 .relock, trivial⟩
  | _ =>
    exact inOrder_games (GamePc.length_mutexes _ evs pc')
      (GamePc.games_not_mem_mutexes rfl evs pc')

theorem GameStopPc.inOrder (pc : GameStopPc) :
    Sections.InOrder (Nests (.control : ServerThread Worker Callback) pt) [] pc.mutexes := by
  cases pc with
  | stopping => exact inOrder_clearAll
  | idle | notifyingAll | notifying | clearingCount => trivial
  | _ => exact Sections.inOrder_of_length (Nat.le_refl 1)

end Points

section Sections

variable {T : Traits} {G Worker Callback : Type} [DecidableEq Worker]

/-- The state as it is once `m_session_lock` is free. -/
def GameServer.unlocked (gs : GameServer T G Worker) : GameServer T G Worker :=
  { gs with base := { gs.base with server := { gs.base.server with sessionLock := none } } }

/-- The sections that a thread may start. A thread that waits for a condition may wake up at
any time. -/
inductive GameBegins (cfg : Config T) (inst : GameInstance T G) (timestep : Int) :
    GameServer T G Worker → ServerThread Worker Callback → List Mutex → Prop where
  | callback (c : Callback) : GameBegins cfg inst timestep gs (.callback c) [.action]
  | worker (w : Worker) :
      GameBegins cfg inst timestep gs (.worker w) ((gs.base.worker w).mutexes cfg .messages)
  | loop : gs.base.caller () = .idle → LoopStep cfg inst timestep gs.unlocked evs gs' →
      GameBegins cfg inst timestep gs .loop (gs.loop.mutexes evs gs'.loop)
  | wake : gs.base.caller () = .idle → gs.loop = .waiting t →
      GameBegins cfg inst timestep gs .loop [.updates]
  | call : gs.base.caller () ≠ .idle →
      GameBegins cfg inst timestep gs .loop (gs.base.caller ()).mutexes
  | control : GameBegins cfg inst timestep gs .control gs.stop.mutexes

/-- The steps of the game server, by thread, with the mutexes that they take. A thread that
wakes up without reason waits again. -/
inductive GameSection (cfg : Config T) (inst : GameInstance T G) (timestep : Int) :
    GameServer T G Worker → ServerThread Worker Callback → List Mutex → List (Event T) →
    GameServer T G Worker → Prop where
  | callback (c : Callback) (h : TransportStep gs.base.server evs s) :
      GameSection cfg inst timestep gs (.callback c) [.action] evs
        { gs with base := { gs.base with server := s, log := gs.base.log ++ evs } }
  | worker (w : Worker)
      (h : WorkerStep cfg (.inl w) gs.base.server (gs.base.worker w) evs s pc)
      (hfree : gs.loop.holdsUpdates = true → evs.filterMap Event.connectionUpdate = []) :
      GameSection cfg inst timestep gs (.worker w)
        ((gs.base.worker w).mutexes cfg .messages) evs
        { evs.foldl GameServer.handle gs with
          base := { gs.base with
            server := s
            worker := Function.update gs.base.worker w pc
            log := gs.base.log ++ evs } }
  | workerWaits (w : Worker) : gs.base.worker w = .waiting → gs.base.server.isRunning = true →
      gs.base.server.actions = [] →
      GameSection cfg inst timestep gs (.worker w) [.action] [] gs
  | loop (hidle : gs.base.caller () = .idle) (h : LoopStep cfg inst timestep gs evs gs') :
      GameSection cfg inst timestep gs .loop (gs.loop.mutexes evs gs'.loop) evs gs'
  | loopWaits : gs.base.caller () = .idle → gs.loop = .waiting t →
      gs.base.server.isRunning = true → gs.connectionUpdates.1 = [] →
      GameSection cfg inst timestep gs .loop [.updates] [] gs
  | call (hbusy : gs.base.caller () ≠ .idle)
      (h : CallerStep cfg (.inr ()) gs.base.server (gs.base.caller ()) evs s pc) :
      GameSection cfg inst timestep gs .loop (gs.base.caller ()).mutexes evs
        (gs.called evs s pc)
  | run (hidle : gs.stop = .idle)
      (h : ControlStep gs.base.server gs.base.control [.running] s pc) :
      GameSection cfg inst timestep gs .control [] [.running]
        { gs with
          base := { gs.base with
            server := s, control := pc, log := gs.base.log ++ [.running] } }
  | stop (h : GameStopStep gs evs gs') :
      GameSection cfg inst timestep gs .control gs.stop.mutexes evs gs'

theorem GameSection.gameStep {cfg : Config T} {inst : GameInstance T G} {timestep : Int}
    {gs gs' : GameServer T G Worker} {t : ServerThread Worker Callback}
    (h : GameSection cfg inst timestep gs t locks evs gs') :
    gs' = gs ∨ GameStep cfg inst timestep gs evs gs' := by
  cases h with
  | callback c h => exact .inr (.transport h)
  | worker w h hfree => exact .inr (.worker w h hfree)
  | workerWaits w hw hr ha => exact .inl rfl
  | loop hidle h => exact .inr (.loop hidle h)
  | loopWaits hidle hl hr hu => exact .inl rfl
  | call hbusy h => exact .inr (.call hbusy h)
  | run hidle h => exact .inr (.run h)
  | stop h => exact .inr (.stop h)

def GameServer.point (gs : GameServer T G Worker) :
    ServerThread Worker Callback → Point T (GamePc T) GameStopPc
  | .callback _ => .callback
  | .worker w => .worker (gs.base.worker w)
  | .loop => .loop gs.loop (gs.base.caller ())
  | .control => .control gs.stop gs.base.control

theorem GameSection.frame {cfg : Config T} {inst : GameInstance T G} {timestep : Int}
    {gs gs' : GameServer T G Worker} {t u : ServerThread Worker Callback}
    (h : GameSection cfg inst timestep gs t locks evs gs') (hut : u ≠ t) :
    gs'.point u = gs.point u := by
  cases h with
  | callback c h => cases u <;> rfl
  | worker w h hfree =>
    rw [GameServer.foldl_handle_eq]
    cases u with
    | worker w' =>
      have hw : w' ≠ w := fun he => hut (he ▸ rfl)
      simp only [GameServer.point, Function.update_of_ne hw]
    | _ => rfl
  | workerWaits w hw hr ha => rfl
  | loop hidle h =>
    obtain ⟨hw, hc, hs⟩ := h.frame
    cases u with
    | callback c => rfl
    | worker w => simp only [GameServer.point, hw]
    | loop => exact (hut rfl).elim
    | control => simp only [GameServer.point, hc, hs]
  | loopWaits hidle hl hr hu => rfl
  | call hbusy h =>
    cases u with
    | loop => exact (hut rfl).elim
    | _ => rfl
  | run hidle h =>
    cases u with
    | control => exact (hut rfl).elim
    | _ => rfl
  | stop h =>
    cases u with
    | control => exact (hut rfl).elim
    | _ => cases h <;> rfl

/-- The game server as threads whose steps are sections under mutexes. -/
def gameSections (Callback : Type) (cfg : Config T) (inst : GameInstance T G)
    (timestep : Int) :
    Sections (GameServer T G Worker) (ServerThread Worker Callback) Mutex (List (Event T)) where
  Point := Point T (GamePc T) GameStopPc
  point gs := gs.point
  keeps := Point.keeps GamePc.keeps
  init gs := ∃ lastUpdate, gs = .start lastUpdate
  begins := GameBegins cfg inst timestep
  step := GameSection cfg inst timestep
  init_keeps gs t h := by
    obtain ⟨lastUpdate, rfl⟩ := h
    cases t <;> rfl
  frame gs t locks evs gs' u h hut := h.frame hut

variable {cfg : Config T} {inst : GameInstance T G} {timestep : Int}
  {gs gs' : GameServer T G Worker}

/-- `update_games` calls the base server only while it holds `m_game_list_lock`. -/
theorem gameIdle_invariant : (gameServer cfg inst timestep).Invariant
    fun gs : GameServer T G Worker => gs.loop.keeps = [.games] ∨ gs.base.caller () = .idle where
  init := by
    intro gs hinit
    obtain ⟨t, rfl⟩ := hinit
    exact .inr rfl
  step {gs evs gs'} _ hi h := by
    cases h with
    | transport h => exact hi
    | worker w h hfree =>
      rw [GameServer.foldl_handle_eq]
      exact hi
    | loop hidle h =>
      cases h with
      | rejectData hl hn hv hc | sendMessage hl hc | endGame sid hl hm hg hd hc
      | updateGames order hl hn ho => exact .inl rfl
      | _ => exact .inr hidle
    | call hbusy h => exact .inl (hi.resolve_right hbusy)
    | run h => exact hi
    | stop h => cases h <;> exact hi

theorem gameSections_reachable {gs : GameServer T G Worker}
    (h : (gameSections Callback cfg inst timestep).atomic.Reachable gs) :
    (gameServer cfg inst timestep).Reachable gs := by
  refine LTS.Reachable.project (M := (gameSections Callback cfg inst timestep).atomic)
    (f := fun gs => gs) (fun h => h) (fun {gs evs gs'} _ hs => ?_) h
  obtain ⟨t, locks, hs⟩ := hs
  exact hs.gameStep.imp_right fun hs => ⟨evs, hs⟩

theorem GameBegins.inOrder {gs : GameServer T G Worker} {t : ServerThread Worker Callback}
    (hr : (gameServer cfg inst timestep).Reachable gs)
    (h : GameBegins cfg inst timestep gs t locks) :
    Sections.InOrder (Nests t (gs.point t)) ((gs.point t).keeps GamePc.keeps) locks := by
  cases h with
  | callback c => exact Sections.inOrder_of_length (Nat.le_refl 1)
  | worker w => exact WorkerPc.inOrder _ cfg .messages
  | loop hidle h =>
    simp only [GameServer.point, hidle]
    exact GamePc.inOrder _ _ _
  | wake hidle hl =>
    simp only [GameServer.point, hidle, hl]
    exact Sections.inOrder_of_length (Nat.le_refl 1)
  | call hbusy =>
    have hk := (gameIdle_invariant.reachable hr).resolve_right hbusy
    simp only [GameServer.point, Point.keeps, hk]
    exact CallerPc.inOrder _ _
  | control => exact GameStopPc.inOrder _

theorem gameServer_not_deadlocked [DecidableEq Callback]
    {σ : Locked (GameServer T G Worker) (ServerThread Worker Callback) Mutex}
    (hσ : ((gameSections Callback cfg inst timestep).interleaving.restrict
      fun _ _ σ' => ¬ Overlapping GameServer.base σ').Reachable σ) : ¬ σ.Deadlocked := by
  have hfree : ¬ Overlapping GameServer.base σ := by
    apply hσ.holds fun {σ} h hover => ?_
    rw [Overlapping, h.2.1] at hover
    cases hover.1
  apply not_deadlocked_of_nests σ.state.point ?_ fun ⟨ha, hs, hc⟩ => hfree
    ⟨ha, hs, CallerPc.closesAhead hc _⟩
  intro t m n hw ho
  exact Sections.nests_of_waiting (S := gameSections Callback cfg inst timestep)
    (fun t (pt : Point T (GamePc T) GameStopPc) => Nests t pt)
    (fun gs t locks hr => GameBegins.inOrder (gameSections_reachable hr)) hσ.of_restrict hw ho

end Sections

end WebGameServer
