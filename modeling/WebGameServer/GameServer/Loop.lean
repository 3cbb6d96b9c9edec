import WebGameServer.BaseServer.Bindings
import WebGameServer.GameServer.State

namespace WebGameServer
set_option autoImplicit true

/-- The thread holds `m_connection_update_list_lock` between two steps. -/
def GamePc.holdsUpdates {T : Traits} : GamePc T → Bool
  | .relocking _ => true
  | _ => false

/-- The thread holds `m_game_list_lock` between two steps. -/
def GamePc.holdsGames {T : Traits} : GamePc T → Bool
  | .testing | .returned | .locking _ | .checking _ | .waiting _ | .relocking _ => false
  | _ => true

section Steps

variable {T : Traits} {G Worker : Type}

/-- The state after a step of the loop's thread inside the base server. -/
def GameServer.called (gs : GameServer T G Worker) (evs : List (Event T))
    (s : Server T (Worker ⊕ Unit)) (pc : CallerPc T) : GameServer T G Worker :=
  { gs with
    base := { gs.base with
      server := s
      caller := Function.update gs.base.caller () pc
      log := gs.base.log ++ evs } }

/-- The steps of `update_games` outside the base server. The clock readings behind
`delta_time` are arbitrary. -/
inductive LoopStep (cfg : Config T) (inst : GameInstance T G) (timestep : Int) :
    GameServer T G Worker → List (Event T) → GameServer T G Worker → Prop where
  | enter (t : Int) : gs.loop = .testing → gs.base.server.isRunning = true →
      LoopStep cfg inst timestep gs [] { gs with loop := .locking t }
  | exit : gs.loop = .testing → gs.base.server.isRunning = false →
      LoopStep cfg inst timestep gs [] { gs with loop := .returned }
  | lock : gs.loop = .locking t → gs.games ≠ ∅ →
      LoopStep cfg inst timestep gs [] { gs with loop := .timing t }
  | noGames : gs.loop = .locking t → gs.games = ∅ →
      LoopStep cfg inst timestep gs [] { gs with loop := .checking t }
  | wait : gs.loop = .checking t → gs.connectionUpdates.1 = [] →
      LoopStep cfg inst timestep gs [] { gs with loop := .waiting t }
  | pass : gs.loop = .checking t → gs.connectionUpdates.1 ≠ [] →
      LoopStep cfg inst timestep gs [] { gs with loop := .relocking t }
  | wakeStopped : gs.loop = .waiting t → gs.base.server.isRunning = false →
      LoopStep cfg inst timestep gs [] { gs with loop := .returned }
  | wake : gs.loop = .waiting t → gs.base.server.isRunning = true →
      gs.connectionUpdates.1 ≠ [] →
      LoopStep cfg inst timestep gs [] { gs with loop := .relocking t }
  | recheck : gs.loop = .waiting t → gs.base.server.isRunning = true →
      gs.connectionUpdates.1 = [] →
      LoopStep cfg inst timestep gs [] { gs with loop := .checking t }
  | relock : gs.loop = .relocking t →
      LoopStep cfg inst timestep gs [] { gs with loop := .timing t }
  | sleep : gs.loop = .timing t → t < timestep →
      LoopStep cfg inst timestep gs [] { gs with loop := .testing }
  | swapUpdates : gs.loop = .timing t → ¬ t < timestep →
      LoopStep cfg inst timestep gs []
        { gs.swapUpdates with loop := .connecting t gs.connectionUpdates.1 }
  | disconnectPlayer : gs.loop = .connecting t (.disconnection cid :: todo) →
      gs.games.lookup cid.session = some g →
      LoopStep cfg inst timestep gs []
        { gs.disconnectPlayer inst g cid with loop := .connecting t todo }
  | disconnectIgnored : gs.loop = .connecting t (.disconnection cid :: todo) →
      gs.games.lookup cid.session = none →
      LoopStep cfg inst timestep gs [] { gs with loop := .connecting t todo }
  | connectPlayer : gs.loop = .connecting t (.connection cid data :: todo) →
      gs.games.lookup cid.session = some g →
      LoopStep cfg inst timestep gs []
        { gs.connectPlayer inst g cid with loop := .connecting t todo }
  | createGame : gs.loop = .connecting t (.connection cid data :: todo) →
      gs.games.lookup cid.session = none → inst.isValid (inst.construct data) = true →
      LoopStep cfg inst timestep gs []
        { (gs.createGame cid.session (inst.construct data)).connectPlayer inst
            ⟨inst.construct data, []⟩ cid with
          loop := .connecting t todo }
  | rejectData : gs.loop = .connecting t (.connection cid data :: todo) →
      gs.games.lookup cid.session = none → inst.isValid (inst.construct data) = false →
      CallerStep cfg (.inr ()) gs.base.server .idle
        [.completing cid.session ⟨cid.session, inst.getState (inst.construct data)⟩] s pc →
      LoopStep cfg inst timestep gs
        [.completing cid.session ⟨cid.session, inst.getState (inst.construct data)⟩]
        { gs.called [.completing cid.session
            ⟨cid.session, inst.getState (inst.construct data)⟩] s pc with
          loop := .connecting t todo
          rejected := cid.session :: gs.rejected }
  | clearUpdates : gs.loop = .connecting t [] →
      LoopStep cfg inst timestep gs []
        { gs with
          connectionUpdates := (gs.connectionUpdates.1, [])
          loop := .erasing t }
  -- An iteration over `finished_games`, which keeps what is left of the list.
  | eraseFinished : gs.loop = .erasing t → gs.finishedGames = sid :: rest →
      LoopStep cfg inst timestep gs [] { gs.eraseGame sid with finishedGames := rest }
  | clearFinished : gs.loop = .erasing t → gs.finishedGames = [] →
      LoopStep cfg inst timestep gs [] { gs with loop := .updating t }
  | updateGames (order : List T.SessionId) : gs.loop = .updating t → order.Nodup →
      order.toFinset = gs.games.keys →
      LoopStep cfg inst timestep gs []
        { gs.processGameUpdates inst t order with
          loop := .sending (gs.processGameUpdates inst t order).outMessages.keys }
  | sendSession (sid : T.SessionId) : gs.loop = .sending todo → sid ∈ todo →
      LoopStep cfg inst timestep gs []
        { gs with loop := .sendingTo sid (gs.outOf sid) (todo.erase sid) }
  | sendMessage : gs.loop = .sendingTo sid (m :: msgs) todo →
      CallerStep cfg (.inr ()) gs.base.server .idle [.sending ⟨m.1, sid⟩ m.2] s pc →
      LoopStep cfg inst timestep gs [.sending ⟨m.1, sid⟩ m.2]
        { gs.called [.sending ⟨m.1, sid⟩ m.2] s pc with loop := .sendingTo sid msgs todo }
  | clearMessages : gs.loop = .sendingTo sid [] todo →
      LoopStep cfg inst timestep gs []
        { gs with outMessages := gs.outMessages.insert sid [], loop := .sending todo }
  | sendDone : gs.loop = .sending ∅ →
      LoopStep cfg inst timestep gs [] { gs with loop := .finishing gs.games.keys }
  | skipGame (sid : T.SessionId) : gs.loop = .finishing todo → sid ∈ todo →
      gs.games.lookup sid = some g → inst.isDone g.game = false →
      LoopStep cfg inst timestep gs [] { gs with loop := .finishing (todo.erase sid) }
  | endGame (sid : T.SessionId) : gs.loop = .finishing todo → sid ∈ todo →
      gs.games.lookup sid = some g → inst.isDone g.game = true →
      CallerStep cfg (.inr ()) gs.base.server .idle
        [.completing sid ⟨sid, inst.getState g.game⟩] s pc →
      LoopStep cfg inst timestep gs [.completing sid ⟨sid, inst.getState g.game⟩]
        { gs.called [.completing sid ⟨sid, inst.getState g.game⟩] s pc with
          loop := .ending sid (todo.erase sid) }
  | pushFinished : gs.loop = .ending sid todo →
      LoopStep cfg inst timestep gs []
        { gs with finishedGames := gs.finishedGames ++ [sid], loop := .finishing todo }
  | finish : gs.loop = .finishing ∅ →
      LoopStep cfg inst timestep gs [] { gs with loop := .testing }

/-- The steps of `game_server::stop`. -/
inductive GameStopStep :
    GameServer T G Worker → List (Event T) → GameServer T G Worker → Prop where
  | stop : gs.stop = .idle → gs.base.control = .idle →
      ControlStep gs.base.server .idle [.stopping] s pc →
      GameStopStep gs [.stopping]
        { gs with
          base := { gs.base with
            server := s, control := pc, log := gs.base.log ++ [.stopping] }
          stop := .stopping }
  | clearAll : gs.stop = .stopping → gs.base.control = .stopping →
      ControlStep gs.base.server .stopping [.stopping, .shutdown hdls] s pc →
      GameStopStep gs [.stopping, .shutdown hdls]
        { gs with
          base := { gs.base with
            server := s, control := pc, log := gs.base.log ++ [.stopping, .shutdown hdls] }
          stop := .notifyingAll }
  | notifyAll : gs.stop = .notifyingAll → gs.base.control = .notifying →
      ControlStep gs.base.server .notifying [.stopping] s pc →
      GameStopStep gs [.stopping]
        { gs with
          base := { gs.base with
            server := s, control := pc, log := gs.base.log ++ [.stopping] }
          stop := .notifying }
  | notify : gs.stop = .notifying → GameStopStep gs [.stopping] { gs with stop := .clearingGames }
  | clearGames : gs.stop = .clearingGames → gs.loop.holdsGames = false →
      GameStopStep gs [.stopping]
        { gs with
          games := ∅
          outMessages := ∅
          connectionUpdates := (gs.connectionUpdates.1, [])
          inMessages := (gs.inMessages.1, ∅)
          stop := .clearingMessages }
  | clearMessages : gs.stop = .clearingMessages →
      GameStopStep gs [.stopping]
        { gs with inMessages := (∅, gs.inMessages.2), stop := .clearingUpdates }
  | clearUpdates : gs.stop = .clearingUpdates → gs.loop.holdsUpdates = false →
      GameStopStep gs [.stopping]
        { gs with
          connectionUpdates := ([], gs.connectionUpdates.2)
          stop := .clearingCount }
  | clearCount : gs.stop = .clearingCount →
      GameStopStep gs [.stopping] { gs with gameCount := 0, stop := .idle }

variable [DecidableEq Worker]

/-- Interleaving of the transport, the workers with the handlers they call, the thread in
`update_games` and the thread that calls `run` and `stop`. -/
inductive GameStep (cfg : Config T) (inst : GameInstance T G) (timestep : Int) :
    GameServer T G Worker → List (Event T) → GameServer T G Worker → Prop where
  | transport (h : TransportStep gs.base.server evs s) :
      GameStep cfg inst timestep gs evs
        { gs with base := { gs.base with server := s, log := gs.base.log ++ evs } }
  | worker (w : Worker)
      (h : WorkerStep cfg (.inl w) gs.base.server (gs.base.worker w) evs s pc)
      (hfree : gs.loop.holdsUpdates = true → evs.filterMap Event.connectionUpdate = []) :
      GameStep cfg inst timestep gs evs
        { evs.foldl GameServer.handle gs with
          base := { gs.base with
            server := s
            worker := Function.update gs.base.worker w pc
            log := gs.base.log ++ evs } }
  | loop (hidle : gs.base.caller () = .idle) (h : LoopStep cfg inst timestep gs evs gs') :
      GameStep cfg inst timestep gs evs gs'
  | call (hbusy : gs.base.caller () ≠ .idle)
      (h : CallerStep cfg (.inr ()) gs.base.server (gs.base.caller ()) evs s pc) :
      GameStep cfg inst timestep gs evs (gs.called evs s pc)
  | run (h : ControlStep gs.base.server gs.base.control [.running] s pc) :
      GameStep cfg inst timestep gs [.running]
        { gs with
          base := { gs.base with
            server := s, control := pc, log := gs.base.log ++ [.running] } }
  | stop (h : GameStopStep gs evs gs') : GameStep cfg inst timestep gs evs gs'

end Steps

section Server

variable {T : Traits} {G Worker : Type}

def GameServer.start (lastUpdate : Int) : GameServer T G Worker where
  base := .start lastUpdate
  games := ∅
  gameCount := 0
  inMessages := (∅, ∅)
  connectionUpdates := ([], [])
  outMessages := ∅
  finishedGames := []
  loop := .testing
  stop := .idle
  rejected := []

theorem LoopStep.base_eq {gs gs' : GameServer T G Worker}
    (h : LoopStep cfg inst timestep gs [] gs') : gs'.base = gs.base := by
  cases h with
  | updateGames order hl hn ho => exact gs.processGameUpdates_base _ _ _
  | _ => rfl

theorem LoopStep.frame {cfg : Config T} {inst : GameInstance T G} {timestep : Int}
    {gs gs' : GameServer T G Worker} (h : LoopStep cfg inst timestep gs evs gs') :
    gs'.base.worker = gs.base.worker ∧ gs'.base.control = gs.base.control ∧
      gs'.stop = gs.stop := by
  cases h with
  | updateGames order hl hn ho =>
    rw [GameServer.processGameUpdates_eq]
    exact ⟨rfl, rfl, rfl⟩
  | _ => exact ⟨rfl, rfl, rfl⟩

theorem LoopStep.not_returned {cfg : Config T} {inst : GameInstance T G} {timestep : Int}
    {gs gs' : GameServer T G Worker} (h : LoopStep cfg inst timestep gs evs gs')
    (hrun : gs.base.server.isRunning = true) (hl : gs.loop ≠ .returned) :
    gs'.loop ≠ .returned := by
  cases h with
  | exit h₀ hr | wakeStopped h₀ hr =>
    rw [hrun] at hr
    cases hr
  | eraseFinished => exact hl
  | _ => nofun

variable [DecidableEq Worker]

def gameServer (cfg : Config T) (inst : GameInstance T G) (timestep : Int) :
    LTS (GameServer T G Worker) (List (Event T)) where
  init gs := ∃ lastUpdate, gs = .start lastUpdate
  step := GameStep cfg inst timestep

variable {cfg : Config T} {inst : GameInstance T G} {timestep : Int}
  {gs gs' : GameServer T G Worker}

/-- The loop's thread moves the base server only by calls of `complete_session` and
`send_message`. -/
theorem LoopStep.project (h : LoopStep cfg inst timestep gs evs gs')
    (hidle : gs.base.caller () = .idle) :
    (evs = [] ∧ gs'.base = gs.base) ∨ Step cfg gs.base evs gs'.base := by
  have hcall {s : Server T (Worker ⊕ Unit)} {pc : CallerPc T} {evs : List (Event T)}
      (hc : CallerStep cfg (.inr ()) gs.base.server .idle evs s pc) :
      Step cfg gs.base evs (gs.called evs s pc).base := .caller () (hidle ▸ hc)
  cases h with
  | rejectData hl hn hv hc | sendMessage hl hc | endGame sid hl hm hg hd hc => exact .inr (hcall hc)
  | updateGames order hl hn ho => exact .inl ⟨rfl, gs.processGameUpdates_base _ _ _⟩
  | _ => exact .inl ⟨rfl, rfl⟩

theorem GameStep.project (h : GameStep cfg inst timestep gs evs gs') (hn : .stopping ∉ evs) :
    (evs = [] ∧ gs'.base = gs.base) ∨ Step cfg gs.base evs gs'.base := by
  cases h with
  | transport h => exact .inr (.transport h)
  | worker w h hfree => exact .inr (.worker w h)
  | loop hidle h => exact h.project hidle
  | call hbusy h => exact .inr (.caller () h)
  | run h => exact .inr (.control h)
  | stop h => cases h <;> exact (hn List.mem_cons_self).elim

theorem GameStep.log (h : GameStep cfg inst timestep gs evs gs') (hn : .stopping ∉ evs) :
    gs'.base.log = gs.base.log ++ evs := by
  rcases h.project hn with ⟨rfl, he⟩ | hs
  · rw [he, List.append_nil]
  · exact hs.log

/-- The base server of a game server is a base server whose callers are the loop's thread. -/
theorem gameServer_project {C : GameServer T G Worker → List (Event T) →
    GameServer T G Worker → Prop} {D : System T Worker Unit → List (Event T) →
    System T Worker Unit → Prop}
    (hC : ∀ {gs evs gs'}, C gs evs gs' → .stopping ∉ evs)
    (hD : ∀ {gs evs gs'}, C gs evs gs' → D gs.base evs gs'.base)
    (h : ((gameServer cfg inst timestep).restrict C).Reachable gs) :
    ((baseServer cfg).restrict D).Reachable gs.base := by
  apply h.project ?_ fun {gs evs gs'} _ hs => ?_
  · intro gs hinit
    obtain ⟨t, rfl⟩ := hinit
    exact ⟨t, rfl⟩
  · rcases hs.1.project (hC hs.2) with ⟨-, he⟩ | hb
    · exact .inl he
    · exact .inr ⟨evs, hb, hD hs.2⟩

end Server

/-- A game of natural numbers that is valid when it starts at zero and never ends. -/
def natGame : GameInstance natTraits Nat where
  construct data := data
  isValid g := g = 0
  connect g out _ := (g, out)
  disconnect g out _ := (g, out)
  update g out msgs _ := (g + msgs.length, out)
  isDone _ := false
  getState g := g

end WebGameServer
