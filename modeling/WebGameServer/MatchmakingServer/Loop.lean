import WebGameServer.BaseServer.Bindings
import WebGameServer.MatchmakingServer.State

namespace WebGameServer
set_option autoImplicit true

/-- The thread holds `m_connection_update_list_lock` between two steps. -/
def MatchPc.holdsUpdates {T : Traits} : MatchPc T → Bool
  | .relocking => true
  | _ => false

/-- The thread holds `m_match_lock` between two steps. -/
def MatchPc.holdsSessions {T : Traits} : MatchPc T → Bool
  | .testing | .returned | .locking | .checking | .waiting | .relocking => false
  | _ => true

section Steps

variable {T : Traits} {D Worker : Type}

/-- The state after a step of the loop's thread inside the base server. -/
def MatchmakingServer.called (ms : MatchmakingServer T D Worker) (evs : List (Event T))
    (s : Server T (Worker ⊕ Unit)) (pc : CallerPc T) : MatchmakingServer T D Worker :=
  { ms with
    base := { ms.base with
      server := s
      caller := Function.update ms.base.caller () pc
      log := ms.base.log ++ evs } }

/-- The steps of `match_players` outside the base server. The clock readings behind
`delta_time` and the answers of `can_match` are arbitrary. -/
inductive MatchStep (cfg : Config T) (mm : Matchmaker T D) (timestep : Int) :
    MatchmakingServer T D Worker → List (Event T) → MatchmakingServer T D Worker → Prop where
  | enter : ms.loop = .testing → ms.base.server.isRunning = true →
      MatchStep cfg mm timestep ms [] { ms with loop := .locking }
  | exit : ms.loop = .testing → ms.base.server.isRunning = false →
      MatchStep cfg mm timestep ms [] { ms with loop := .returned }
  | canMatch : ms.loop = .locking →
      MatchStep cfg mm timestep ms [] { ms with loop := .timing }
  | cannotMatch : ms.loop = .locking →
      MatchStep cfg mm timestep ms [] { ms with loop := .checking }
  | wait : ms.loop = .checking → ms.connectionUpdates.1 = [] →
      MatchStep cfg mm timestep ms [] { ms with loop := .waiting }
  | pass : ms.loop = .checking → ms.connectionUpdates.1 ≠ [] →
      MatchStep cfg mm timestep ms [] { ms with loop := .relocking }
  | wakeStopped : ms.loop = .waiting → ms.base.server.isRunning = false →
      MatchStep cfg mm timestep ms [] { ms with loop := .returned }
  | wake : ms.loop = .waiting → ms.base.server.isRunning = true →
      ms.connectionUpdates.1 ≠ [] →
      MatchStep cfg mm timestep ms [] { ms with loop := .relocking }
  | recheck : ms.loop = .waiting → ms.base.server.isRunning = true →
      ms.connectionUpdates.1 = [] →
      MatchStep cfg mm timestep ms [] { ms with loop := .checking }
  | relock : ms.loop = .relocking →
      MatchStep cfg mm timestep ms [] { ms with loop := .timing }
  | sleep (t : Int) : ms.loop = .timing → t < timestep →
      MatchStep cfg mm timestep ms [] { ms with loop := .testing }
  | swapUpdates (t : Int) : ms.loop = .timing → ¬ t < timestep →
      MatchStep cfg mm timestep ms []
        { ms.swapUpdates with loop := .connecting t ms.connectionUpdates.1 }
  | cancelSession : ms.loop = .connecting t (.disconnection cid :: todo) →
      ms.sessionData.lookup cid.session = some d →
      CallerStep cfg (.inr ()) ms.base.server .idle
        [.completing cid.session ⟨cid.session, mm.getCancelData⟩] s pc →
      MatchStep cfg mm timestep ms [.completing cid.session ⟨cid.session, mm.getCancelData⟩]
        { ms.called [.completing cid.session ⟨cid.session, mm.getCancelData⟩] s pc with
          loop := .cancelling t cid.session todo }
  | eraseCancelled : ms.loop = .cancelling t sid todo →
      MatchStep cfg mm timestep ms []
        { ms.eraseSession sid with
          finishedSessions := (ms.finishedSessions.1, ms.finishedSessions.2 ++ [sid])
          loop := .connecting t todo }
  | disconnectIgnored : ms.loop = .connecting t (.disconnection cid :: todo) →
      ms.sessionData.lookup cid.session = none →
      MatchStep cfg mm timestep ms [] { ms with loop := .connecting t todo }
  | insertPlayer : ms.loop = .connecting t (.connection cid data :: todo) →
      ms.sessionData.lookup cid.session = some d →
      MatchStep cfg mm timestep ms []
        { ms.insertPlayer cid with loop := .connecting t todo }
  | createSession : ms.loop = .connecting t (.connection cid data :: todo) →
      ms.sessionData.lookup cid.session = none → mm.isValid (mm.construct data) = true →
      MatchStep cfg mm timestep ms []
        { ms.createSession cid (mm.construct data) with loop := .connecting t todo }
  | rejectData : ms.loop = .connecting t (.connection cid data :: todo) →
      ms.sessionData.lookup cid.session = none → mm.isValid (mm.construct data) = false →
      CallerStep cfg (.inr ()) ms.base.server .idle
        [.completing cid.session ⟨cid.session, mm.getCancelData⟩] s pc →
      MatchStep cfg mm timestep ms [.completing cid.session ⟨cid.session, mm.getCancelData⟩]
        { ms.called [.completing cid.session ⟨cid.session, mm.getCancelData⟩] s pc with
          loop := .rejecting t cid.session todo }
  | pushRejected : ms.loop = .rejecting t sid todo →
      MatchStep cfg mm timestep ms []
        { ms with
          finishedSessions := (ms.finishedSessions.1, ms.finishedSessions.2 ++ [sid])
          loop := .connecting t todo }
  | clearUpdates : ms.loop = .connecting t [] →
      MatchStep cfg mm timestep ms []
        { ms with
          connectionUpdates := (ms.connectionUpdates.1, [])
          loop := .erasing t }
  | eraseFinished : ms.loop = .erasing t →
      MatchStep cfg mm timestep ms [] { ms.eraseFinished with loop := .matching t }
  | matchSessions (games : List (MatchedGame T)) (msgs : List (T.SessionId × String)) :
      ms.loop = .matching t → mm.returns ms.sessionData t games msgs →
      MatchStep cfg mm timestep ms []
        { ms with emitted := ms.emitted ++ games, loop := .broadcasting msgs games }
  | broadcast : ms.loop = .broadcasting ((sid, text) :: msgs) games →
      MatchStep cfg mm timestep ms []
        { ms with
          loop :=
            .broadcastingTo sid text ((ms.sessionPlayers.lookup sid).getD ∅) msgs games }
  -- The text is moved into the queue, which leaves the string empty.
  | sendMessage (pid : T.PlayerId) : ms.loop = .broadcastingTo sid text todo msgs games →
      pid ∈ todo → ms.base.server.idConnections.lookup ⟨pid, sid⟩ = some hdl →
      CallerStep cfg (.inr ()) ms.base.server .idle [.sending ⟨pid, sid⟩ text] s pc →
      MatchStep cfg mm timestep ms [.sending ⟨pid, sid⟩ text]
        { ms.called [.sending ⟨pid, sid⟩ text] s pc with
          loop := .broadcastingTo sid "" (todo.erase pid) msgs games }
  | sendIgnored (pid : T.PlayerId) : ms.loop = .broadcastingTo sid text todo msgs games →
      pid ∈ todo → ms.base.server.idConnections.lookup ⟨pid, sid⟩ = none →
      CallerStep cfg (.inr ()) ms.base.server .idle [.sending ⟨pid, sid⟩ text] s pc →
      MatchStep cfg mm timestep ms [.sending ⟨pid, sid⟩ text]
        { ms.called [.sending ⟨pid, sid⟩ text] s pc with
          loop := .broadcastingTo sid text (todo.erase pid) msgs games }
  | sent : ms.loop = .broadcastingTo sid text ∅ msgs games →
      MatchStep cfg mm timestep ms [] { ms with loop := .broadcasting msgs games }
  | broadcastDone : ms.loop = .broadcasting [] games →
      MatchStep cfg mm timestep ms [] { ms with loop := .finishing games }
  | takeGame : ms.loop = .finishing (game :: games) →
      MatchStep cfg mm timestep ms [] { ms with loop := .finishingGame game games }
  | endSession : ms.loop = .finishingGame ⟨sid :: sids, gsid, data⟩ games →
      CallerStep cfg (.inr ()) ms.base.server .idle [.completing sid ⟨gsid, data⟩] s pc →
      MatchStep cfg mm timestep ms [.completing sid ⟨gsid, data⟩]
        { ms.called [.completing sid ⟨gsid, data⟩] s pc with
          loop := .ending sid ⟨sids, gsid, data⟩ games }
  | pushFinished : ms.loop = .ending sid game games →
      MatchStep cfg mm timestep ms []
        { ms with
          finishedSessions := (ms.finishedSessions.1 ++ [sid], ms.finishedSessions.2)
          loop := .finishingGame game games }
  | gameDone : ms.loop = .finishingGame ⟨[], gsid, data⟩ games →
      MatchStep cfg mm timestep ms [] { ms with loop := .finishing games }
  | finish : ms.loop = .finishing [] →
      MatchStep cfg mm timestep ms [] { ms with loop := .testing }

/-- The steps of `matchmaking_server::stop`. -/
inductive MatchStopStep : MatchmakingServer T D Worker → List (Event T) →
    MatchmakingServer T D Worker → Prop where
  | stop : ms.stop = .idle → ms.base.control = .idle →
      ControlStep ms.base.server .idle [.stopping] s pc →
      MatchStopStep ms [.stopping]
        { ms with
          base := { ms.base with
            server := s, control := pc, log := ms.base.log ++ [.stopping] }
          stop := .stopping }
  | clearAll : ms.stop = .stopping → ms.base.control = .stopping →
      ControlStep ms.base.server .stopping [.stopping, .shutdown hdls] s pc →
      MatchStopStep ms [.stopping, .shutdown hdls]
        { ms with
          base := { ms.base with
            server := s, control := pc, log := ms.base.log ++ [.stopping, .shutdown hdls] }
          stop := .notifyingAll }
  | notifyAll : ms.stop = .notifyingAll → ms.base.control = .notifying →
      ControlStep ms.base.server .notifying [.stopping] s pc →
      MatchStopStep ms [.stopping]
        { ms with
          base := { ms.base with
            server := s, control := pc, log := ms.base.log ++ [.stopping] }
          stop := .clearingSessions }
  | clearSessions : ms.stop = .clearingSessions → ms.loop.holdsSessions = false →
      MatchStopStep ms [.stopping]
        { ms with
          sessionData := ∅
          sessionPlayers := ∅
          connectionUpdates := (ms.connectionUpdates.1, [])
          stop := .clearingUpdates }
  | clearUpdates : ms.stop = .clearingUpdates → ms.loop.holdsUpdates = false →
      MatchStopStep ms [.stopping]
        { ms with
          connectionUpdates := ([], ms.connectionUpdates.2)
          stop := .notifying }
  | notify : ms.stop = .notifying → MatchStopStep ms [.stopping] { ms with stop := .idle }

variable [DecidableEq Worker]

/-- Interleaving of the transport, the workers with the handlers they call, the thread in
`match_players` and the thread that calls `run` and `stop`. -/
inductive MatchmakingStep (cfg : Config T) (mm : Matchmaker T D) (timestep : Int) :
    MatchmakingServer T D Worker → List (Event T) → MatchmakingServer T D Worker → Prop where
  | transport (h : TransportStep ms.base.server evs s) :
      MatchmakingStep cfg mm timestep ms evs
        { ms with base := { ms.base with server := s, log := ms.base.log ++ evs } }
  | worker (w : Worker)
      (h : WorkerStep cfg (.inl w) ms.base.server (ms.base.worker w) evs s pc)
      (hfree : ms.loop.holdsUpdates = true → evs.filterMap Event.matchUpdate = []) :
      MatchmakingStep cfg mm timestep ms evs
        { ms.handleAll evs with
          base := { ms.base with
            server := s
            worker := Function.update ms.base.worker w pc
            log := ms.base.log ++ evs } }
  | loop (hidle : ms.base.caller () = .idle) (h : MatchStep cfg mm timestep ms evs ms') :
      MatchmakingStep cfg mm timestep ms evs ms'
  | call (hbusy : ms.base.caller () ≠ .idle)
      (h : CallerStep cfg (.inr ()) ms.base.server (ms.base.caller ()) evs s pc) :
      MatchmakingStep cfg mm timestep ms evs (ms.called evs s pc)
  | run (h : ControlStep ms.base.server ms.base.control [.running] s pc) :
      MatchmakingStep cfg mm timestep ms [.running]
        { ms with
          base := { ms.base with
            server := s, control := pc, log := ms.base.log ++ [.running] } }
  | stop (h : MatchStopStep ms evs ms') : MatchmakingStep cfg mm timestep ms evs ms'

end Steps

section Server

variable {T : Traits} {D Worker : Type}

def MatchmakingServer.start (lastUpdate : Int) : MatchmakingServer T D Worker where
  base := .start lastUpdate
  sessionData := ∅
  sessionPlayers := ∅
  connectionUpdates := ([], [])
  finishedSessions := ([], [])
  loop := .testing
  stop := .idle
  emitted := []

theorem MatchStep.base_eq {cfg : Config T} {mm : Matchmaker T D} {timestep : Int}
    {ms ms' : MatchmakingServer T D Worker} (h : MatchStep cfg mm timestep ms [] ms') :
    ms'.base = ms.base := by
  cases h with
  | eraseFinished hl => rw [MatchmakingServer.eraseFinished_eq]
  | _ => rfl

theorem MatchStep.silent {cfg : Config T} {mm : Matchmaker T D} {timestep : Int}
    {ms ms' : MatchmakingServer T D Worker} (h : MatchStep cfg mm timestep ms evs ms')
    (hl : ms'.loop.holdsSessions = false) : evs = [] := by
  cases h <;> first | rfl | cases hl

theorem MatchStep.frame {cfg : Config T} {mm : Matchmaker T D} {timestep : Int}
    {ms ms' : MatchmakingServer T D Worker} (h : MatchStep cfg mm timestep ms evs ms') :
    ms'.base.worker = ms.base.worker ∧ ms'.base.control = ms.base.control ∧
      ms'.stop = ms.stop := by
  cases h with
  | eraseFinished hl =>
    rw [MatchmakingServer.eraseFinished_eq]
    exact ⟨rfl, rfl, rfl⟩
  | _ => exact ⟨rfl, rfl, rfl⟩

variable [DecidableEq Worker]

def matchmakingServer (cfg : Config T) (mm : Matchmaker T D) (timestep : Int) :
    LTS (MatchmakingServer T D Worker) (List (Event T)) where
  init ms := ∃ lastUpdate, ms = .start lastUpdate
  step := MatchmakingStep cfg mm timestep

variable {cfg : Config T} {mm : Matchmaker T D} {timestep : Int}
  {ms ms' : MatchmakingServer T D Worker}

/-- The loop's thread moves the base server only by calls of `complete_session` and
`send_message`. -/
theorem MatchStep.project (h : MatchStep cfg mm timestep ms evs ms')
    (hidle : ms.base.caller () = .idle) :
    (evs = [] ∧ ms'.base = ms.base) ∨ Step cfg ms.base evs ms'.base := by
  have hcall {s : Server T (Worker ⊕ Unit)} {pc : CallerPc T} {evs : List (Event T)}
      (hc : CallerStep cfg (.inr ()) ms.base.server .idle evs s pc) :
      Step cfg ms.base evs (ms.called evs s pc).base := .caller () (hidle ▸ hc)
  cases h with
  | cancelSession hl hd hc | rejectData hl hn hv hc | sendMessage pid hl hm hi hc
  | sendIgnored pid hl hm hi hc | endSession hl hc => exact .inr (hcall hc)
  | eraseFinished hl =>
    refine .inl ⟨rfl, ?_⟩
    rw [MatchmakingServer.eraseFinished_eq]
  | _ => exact .inl ⟨rfl, rfl⟩

theorem MatchmakingStep.project (h : MatchmakingStep cfg mm timestep ms evs ms')
    (hn : .stopping ∉ evs) :
    (evs = [] ∧ ms'.base = ms.base) ∨ Step cfg ms.base evs ms'.base := by
  cases h with
  | transport h => exact .inr (.transport h)
  | worker w h hfree => exact .inr (.worker w h)
  | loop hidle h => exact h.project hidle
  | call hbusy h => exact .inr (.caller () h)
  | run h => exact .inr (.control h)
  | stop h => cases h <;> exact (hn List.mem_cons_self).elim

theorem MatchmakingStep.log (h : MatchmakingStep cfg mm timestep ms evs ms')
    (hn : .stopping ∉ evs) : ms'.base.log = ms.base.log ++ evs := by
  rcases h.project hn with ⟨rfl, he⟩ | hs
  · rw [he, List.append_nil]
  · exact hs.log

theorem idle_invariant : (matchmakingServer cfg mm timestep).Invariant
    fun ms : MatchmakingServer T D Worker =>
      ms.loop.holdsSessions = false → ms.base.caller () = .idle where
  init := by
    intro ms hinit _
    obtain ⟨t, rfl⟩ := hinit
    rfl
  step {ms evs ms'} _ hi h := by
    intro hl
    cases h with
    | transport h | worker w h hfree => exact hi hl
    | loop hidle h =>
      obtain rfl := h.silent hl
      rw [h.base_eq]
      exact hidle
    | call hbusy h => exact (hbusy (hi hl)).elim
    | run h => exact hi hl
    | stop h => cases h <;> exact hi hl

theorem matchmakingServer_project {C : MatchmakingServer T D Worker → List (Event T) →
    MatchmakingServer T D Worker → Prop} {E : System T Worker Unit → List (Event T) →
    System T Worker Unit → Prop}
    (hC : ∀ {ms evs ms'}, C ms evs ms' → .stopping ∉ evs)
    (hE : ∀ {ms evs ms'}, C ms evs ms' → E ms.base evs ms'.base)
    (h : ((matchmakingServer cfg mm timestep).restrict C).Reachable ms) :
    ((baseServer cfg).restrict E).Reachable ms.base := by
  apply h.project ?_ fun {ms evs ms'} _ hs => ?_
  · intro ms hinit
    obtain ⟨t, rfl⟩ := hinit
    exact ⟨t, rfl⟩
  · rcases hs.1.project (hC hs.2) with ⟨-, he⟩ | hb
    · exact .inl he
    · exact .inr ⟨evs, hb, hE hs.2⟩

end Server

end WebGameServer
