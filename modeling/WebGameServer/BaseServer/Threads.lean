import Mathlib.Logic.Function.Basic
import WebGameServer.BaseServer.Sections
import WebGameServer.Library.Transition

namespace WebGameServer
set_option autoImplicit true

/-- What a step shows to the transport, to the handlers and to the callers of the server. -/
inductive Event (T : Traits) where
  | opened (hdl : T.Hdl)
  | received (hdl : T.Hdl) (msg : String)
  | closed (hdl : T.Hdl)
  | took (a : Action T)
  | sent (hdl : T.Hdl) (msg : String) (owner : Option (CombinedId T))
  | closing (hdl : T.Hdl) (reason : CloseReason)
  | shutdown (hdls : Finset T.Hdl)
  | handleOpen (id : CombinedId T) (data : T.Json)
  | handleClose (id : CombinedId T)
  | handleMessage (id : CombinedId T) (msg : String)
  | sending (id : CombinedId T) (msg : String)
  | completing (sid : T.SessionId) (result : SessionData T)
  | result (id : CombinedId T) (str : String)
  | running
  | stopping

/-- The program points of a `process_messages` thread between its mutex-protected sections. -/
inductive WorkerPc (T : Traits) where
  -- Before the test of `while(m_is_running)`.
  | testing
  -- Before the acquisition of `m_action_lock`.
  | locking
  -- Inside `m_action_cond.wait`.
  | waiting
  | returned
  -- With the action `a` popped and `m_action_lock` released.
  | handling (a : Action T)
  -- In `player_disconnect`, before the section under `m_connection_lock`.
  | disconnecting (hdl : T.Hdl) (id : CombinedId T)
  -- Before the section under `m_session_lock`.
  | leaving (hdl : T.Hdl) (id : CombinedId T)
  -- Before `--m_player_count`.
  | uncounting (hdl : T.Hdl) (id : CombinedId T)
  -- Before the call of `m_handle_close`.
  | closing (hdl : T.Hdl) (id : CombinedId T)
  -- Before the call of `m_handle_message`.
  | messaging (hdl : T.Hdl) (id : CombinedId T) (msg : String)
  -- At the start of `open_session`.
  | opening (hdl : T.Hdl) (token : String)
  -- Holding `m_session_lock`, before `setup_connection_id`.
  | binding (hdl : T.Hdl) (id : CombinedId T) (data : T.Json)
  -- Holding `m_session_lock`, after `setup_connection_id`.
  | entering (hdl : T.Hdl) (id : CombinedId T) (data : T.Json)

/-- The program points of a thread that calls `complete_session` and `send_message`. -/
inductive CallerPc (T : Traits) where
  | idle
  -- In the loop of `complete_session`, holding `m_session_lock`; `todo` is left to visit.
  | completing (sid : T.SessionId) (result : SessionData T) (todo : Finset T.PlayerId)
  -- The handle of `pid` is found and its action is not pushed yet.
  | closing (sid : T.SessionId) (result : SessionData T) (todo : Finset T.PlayerId)
      (pid : T.PlayerId) (hdl : T.Hdl)
  -- In `send_message`, with the handle of `id` found.
  | sending (id : CombinedId T) (hdl : T.Hdl) (msg : String)

/-- The program points of the thread that calls `run` and `stop`. -/
inductive ControlPc where
  | idle
  -- In `stop`, with `m_is_running` cleared, before the section under the three locks.
  | stopping
  -- Before `m_action_cond.notify_all`.
  | notifying

section Steps

variable {T : Traits} {Thread : Type}

/-- The callbacks `on_open`, `on_message` and `on_close` of the transport. -/
inductive TransportStep :
    Server T Thread → List (Event T) → Server T Thread → Prop where
  | onOpen (hdl : T.Hdl) : s.isRunning = true →
      TransportStep s [.opened hdl] (s.push { type := .subscribe, hdl := hdl })
  | onOpenStopped (hdl : T.Hdl) : s.isRunning = false →
      TransportStep s [.opened hdl, .closing hdl .serverShutdown] s
  | onMessage (hdl : T.Hdl) (msg : String) :
      TransportStep s [.received hdl msg]
        (s.push { type := .inMessage, hdl := hdl, msg := msg })
  | onClose (hdl : T.Hdl) :
      TransportStep s [.closed hdl] (s.push { type := .unsubscribe, hdl := hdl })

/-- The steps of a `process_messages` thread `me`. -/
inductive WorkerStep (cfg : Config T) (me : Thread) : Server T Thread → WorkerPc T →
    List (Event T) → Server T Thread → WorkerPc T → Prop where
  | enter : s.isRunning = true → WorkerStep cfg me s .testing [] s .locking
  | exit : s.isRunning = false → WorkerStep cfg me s .testing [] s .returned
  | wait : s.actions = [] → WorkerStep cfg me s .locking [] s .waiting
  | pop : s.actions = a :: rest →
      WorkerStep cfg me s .locking [.took a] { s with actions := rest } (.handling a)
  | wakeStopped : s.isRunning = false → WorkerStep cfg me s .waiting [] s .returned
  | wakePop : s.isRunning = true → s.actions = a :: rest →
      WorkerStep cfg me s .waiting [.took a] { s with actions := rest } (.handling a)
  | subscribe : a.type = .subscribe →
      WorkerStep cfg me s (.handling a) []
        { s with newConnections := insert a.hdl s.newConnections } .testing
  | unsubscribeUnbound : a.type = .unsubscribe → s.connectionIds.lookup a.hdl = none →
      WorkerStep cfg me s (.handling a) []
        { s with newConnections := s.newConnections.erase a.hdl } .testing
  | unsubscribeBound : a.type = .unsubscribe → s.connectionIds.lookup a.hdl = some cid →
      WorkerStep cfg me s (.handling a) [] s (.disconnecting a.hdl cid)
  | disconnectConnection :
      WorkerStep cfg me s (.disconnecting hdl cid) [] (s.disconnectConnection hdl cid)
        (.leaving hdl cid)
  | disconnectSession : s.sessionLock = none →
      WorkerStep cfg me s (.leaving hdl cid) [] (s.disconnectSession cid) (.uncounting hdl cid)
  | uncount :
      WorkerStep cfg me s (.uncounting hdl cid) []
        { s with playerCount := sizeDecrement s.playerCount } (.closing hdl cid)
  | handleClose : WorkerStep cfg me s (.closing hdl cid) [.handleClose cid] s .testing
  | messageUnbound : a.type = .inMessage → s.connectionIds.lookup a.hdl = none →
      WorkerStep cfg me s (.handling a) [] s (.opening a.hdl a.msg)
  | messageBound : a.type = .inMessage → s.connectionIds.lookup a.hdl = some cid →
      WorkerStep cfg me s (.handling a) [] s (.messaging a.hdl cid a.msg)
  | handleMessage :
      WorkerStep cfg me s (.messaging hdl cid msg) [.handleMessage cid msg] s .testing
  | outMessage : a.type = .outMessage →
      WorkerStep cfg me s (.handling a) [.sent a.hdl a.msg a.owner] s .testing
  | closeConnection : a.type = .closeConnection →
      WorkerStep cfg me s (.handling a)
        [.sent a.hdl a.msg a.owner, .closing a.hdl .sessionComplete] s .testing
  | invalidToken : cfg.verify token = none →
      WorkerStep cfg me s (.opening hdl token) [.closing hdl .invalidJwt] s .testing
  | lockedSession (c : ClockReadings) :
      cfg.verify token = some (cid, data) → s.sessionLock = none →
      (s.updateSessionLocks cfg.sessionReleaseTime c).lockedSessions.at? cid.session =
        some result →
      WorkerStep cfg me s (.opening hdl token)
        [.result cid (cfg.getResultStr ⟨cid.player, result.session⟩ result.data),
          .sent hdl (cfg.getResultStr ⟨cid.player, result.session⟩ result.data) (some cid),
          .closing hdl .sessionComplete]
        (s.updateSessionLocks cfg.sessionReleaseTime c) .testing
  | openSession (c : ClockReadings) :
      cfg.verify token = some (cid, data) → s.sessionLock = none →
      (s.updateSessionLocks cfg.sessionReleaseTime c).isLocked cid.session = false →
      WorkerStep cfg me s (.opening hdl token) []
        { s.updateSessionLocks cfg.sessionReleaseTime c with sessionLock := some me }
        (.binding hdl cid data)
  | setupConnectionId :
      WorkerStep cfg me s (.binding hdl cid data)
        ((s.duplicateOf cid).toList.map fun old => .closing old .duplicateConnection)
        (s.setupConnectionId hdl cid) (.entering hdl cid data)
  | handleOpen :
      WorkerStep cfg me s (.entering hdl cid data) [.handleOpen cid data]
        { s.insertPlayer cid with sessionLock := none } .testing

/-- The steps of a thread `me` in `complete_session` and `send_message`. -/
inductive CallerStep (cfg : Config T) (me : Thread) : Server T Thread → CallerPc T →
    List (Event T) → Server T Thread → CallerPc T → Prop where
  | completeLocked (c : ClockReadings) (sid : T.SessionId) (result : SessionData T) :
      s.sessionLock = none →
      (s.updateSessionLocks cfg.sessionReleaseTime c).isLocked sid = true →
      CallerStep cfg me s .idle [.completing sid result]
        (s.updateSessionLocks cfg.sessionReleaseTime c) .idle
  | completeSession (c : ClockReadings) (sid : T.SessionId) (result : SessionData T) :
      s.sessionLock = none →
      (s.updateSessionLocks cfg.sessionReleaseTime c).isLocked sid = false →
      CallerStep cfg me s .idle [.completing sid result]
        { s.updateSessionLocks cfg.sessionReleaseTime c with sessionLock := some me }
        (.completing sid result (s.playersOf sid))
  | findPlayer (pid : T.PlayerId) : pid ∈ todo → s.idConnections.lookup ⟨pid, sid⟩ = some hdl →
      CallerStep cfg me s (.completing sid result todo) [] s
        (.closing sid result (todo.erase pid) pid hdl)
  | skipPlayer (pid : T.PlayerId) : pid ∈ todo → s.idConnections.lookup ⟨pid, sid⟩ = none →
      CallerStep cfg me s (.completing sid result todo) [] s
        (.completing sid result (todo.erase pid))
  | closePlayer :
      CallerStep cfg me s (.closing sid result todo pid hdl)
        [.result ⟨pid, sid⟩ (cfg.getResultStr ⟨pid, result.session⟩ result.data)]
        (s.push
          { type := .closeConnection
            hdl := hdl
            msg := cfg.getResultStr ⟨pid, result.session⟩ result.data
            owner := some ⟨pid, sid⟩ })
        (.completing sid result todo)
  | lockSession :
      CallerStep cfg me s (.completing sid result ∅) []
        { s.lockSession sid result with sessionLock := none } .idle
  | sendMessage (cid : CombinedId T) (msg : String) : s.idConnections.lookup cid = some hdl →
      CallerStep cfg me s .idle [.sending cid msg] s (.sending cid hdl msg)
  | sendIgnored (cid : CombinedId T) (msg : String) : s.idConnections.lookup cid = none →
      CallerStep cfg me s .idle [.sending cid msg] s .idle
  | pushMessage :
      CallerStep cfg me s (.sending cid hdl msg) []
        (s.push { type := .outMessage, hdl := hdl, msg := msg, owner := some cid }) .idle

/-- The steps of `run` and `stop`. -/
inductive ControlStep : Server T Thread → ControlPc → List (Event T) → Server T Thread →
    ControlPc → Prop where
  | run : s.isRunning = false →
      ControlStep s .idle [.running] { s with isRunning := true } .idle
  | stop : s.isRunning = true →
      ControlStep s .idle [.stopping] { s with isRunning := false } .stopping
  | clearAll : s.sessionLock = none →
      ControlStep s .stopping [.stopping, .shutdown s.openHdls] s.clearAll .notifying
  | notifyAll : ControlStep s .notifying [.stopping] s .idle

/-- What takes a step. -/
inductive Origin where
  | transport
  | worker
  | caller
  | control
  deriving DecidableEq

/-- The steps of the origin show events of this kind. -/
def Origin.shows : Origin → Event T → Bool
  | .transport, .opened _ | .transport, .received _ _ | .transport, .closed _ => true
  | .transport, .closing _ reason => reason = .serverShutdown
  | .worker, .took _ | .worker, .sent _ _ _ | .worker, .result _ _ => true
  | .worker, .closing _ reason => reason ≠ .serverShutdown
  | .worker, .handleOpen _ _ | .worker, .handleClose _ | .worker, .handleMessage _ _ => true
  | .caller, .completing _ _ | .caller, .sending _ _ | .caller, .result _ _ => true
  | .control, .running | .control, .stopping | .control, .shutdown _ => true
  | _, _ => false

theorem TransportStep.shows {s s' : Server T Thread} (h : TransportStep s evs s') :
    ∀ e ∈ evs, Origin.transport.shows e = true := by
  cases h <;> simp only [List.forall_mem_cons, List.not_mem_nil, false_implies, implies_true,
    Origin.shows, decide_true, and_self]

theorem WorkerStep.shows {me : Thread} {s s' : Server T Thread}
    (h : WorkerStep cfg me s pc evs s' pc') : ∀ e ∈ evs, Origin.worker.shows e = true := by
  cases h with
  | setupConnectionId =>
    intro e he
    obtain ⟨old, -, rfl⟩ := List.mem_map.1 he
    rfl
  | _ =>
    simp only [List.forall_mem_cons, List.not_mem_nil, false_implies, implies_true, Origin.shows,
      ne_eq, reduceCtorEq, not_false_eq_true, decide_true, and_self]

theorem CallerStep.shows {me : Thread} {s s' : Server T Thread}
    (h : CallerStep cfg me s pc evs s' pc') : ∀ e ∈ evs, Origin.caller.shows e = true := by
  cases h <;> simp only [List.forall_mem_cons, List.not_mem_nil, false_implies, implies_true,
    Origin.shows, and_self]

theorem ControlStep.shows {s s' : Server T Thread} (h : ControlStep s pc evs s' pc') :
    ∀ e ∈ evs, Origin.control.shows e = true := by
  cases h <;> simp only [List.forall_mem_cons, List.not_mem_nil, false_implies, implies_true,
    Origin.shows, and_self]

theorem notMem_of_shows {o : Origin} {evs : List (Event T)} {e : Event T}
    (h : ∀ e ∈ evs, o.shows e = true) (he : o.shows e = false) : e ∉ evs := by
  intro hm
  rw [h e hm] at he
  cases he

end Steps

/-- The server together with its threads. The field `log` is ghost: the events so far. -/
structure System (T : Traits) (Worker Caller : Type) where
  server : Server T (Worker ⊕ Caller)
  worker : Worker → WorkerPc T
  caller : Caller → CallerPc T
  control : ControlPc
  log : List (Event T)

section System

variable {T : Traits} {Worker Caller : Type}

/-- The state that the constructor leaves, with any value of `m_last_session_update_time`. -/
def System.start (lastUpdate : Int) : System T Worker Caller where
  server :=
    { isRunning := false
      newConnections := ∅
      connectionIds := ∅
      idConnections := ∅
      lastSessionUpdateTime := lastUpdate
      lockedSessions := .empty
      sessionPlayers := ∅
      sessionLock := none
      actions := []
      playerCount := 0 }
  worker _ := .testing
  caller _ := .idle
  control := .idle
  log := []

@[simp] theorem System.start_log (t : Int) :
    (System.start t : System T Worker Caller).log = [] := rfl

variable [DecidableEq Worker] [DecidableEq Caller]

/-- Interleaving: one step of the transport or of one thread. -/
inductive Step (cfg : Config T) : System T Worker Caller → List (Event T) →
    System T Worker Caller → Prop where
  | transport (h : TransportStep σ.server evs s) :
      Step cfg σ evs { σ with server := s, log := σ.log ++ evs }
  | worker (w : Worker) (h : WorkerStep cfg (.inl w) σ.server (σ.worker w) evs s pc) :
      Step cfg σ evs
        { σ with server := s, worker := Function.update σ.worker w pc, log := σ.log ++ evs }
  | caller (c : Caller) (h : CallerStep cfg (.inr c) σ.server (σ.caller c) evs s pc) :
      Step cfg σ evs
        { σ with server := s, caller := Function.update σ.caller c pc, log := σ.log ++ evs }
  | control (h : ControlStep σ.server σ.control evs s pc) :
      Step cfg σ evs { σ with server := s, control := pc, log := σ.log ++ evs }

/-- The transition system of `base_server` under any number of threads. -/
def baseServer (cfg : Config T) : LTS (System T Worker Caller) (List (Event T)) where
  init σ := ∃ lastUpdate, σ = .start lastUpdate
  step := Step cfg

theorem Step.log (h : Step cfg σ evs (σ' : System T Worker Caller)) :
    σ'.log = σ.log ++ evs := by
  cases h <;> rfl

end System

/-- Natural numbers for every type, to evaluate runs. -/
abbrev natTraits : Traits where
  Hdl := Nat
  PlayerId := Nat
  SessionId := Nat
  Json := Nat

/-- Three players with tokens for session 7, the last with data of its own, and one with a
token for session 8. -/
def natConfig : Config natTraits where
  verify token :=
    if token = "ada" then some (⟨1, 7⟩, 0)
    else if token = "bob" then some (⟨2, 7⟩, 0)
    else if token = "eve" then some (⟨3, 7⟩, 1)
    else if token = "zoe" then some (⟨4, 8⟩, 0)
    else none
  getResultStr _ data := if data = 0 then "cancelled" else "matched"
  sessionReleaseTime := 3600000

end WebGameServer
