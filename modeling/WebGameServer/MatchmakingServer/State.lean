import WebGameServer.BaseServer.Handlers

namespace WebGameServer
set_option autoImplicit true

/-- A game that `match` returns: its sessions, the session of the game and its data. -/
structure MatchedGame (T : Traits) where
  sessions : List T.SessionId
  session : T.SessionId
  data : T.Json

/-- The type parameter `matchmaker` with its `session_data`. The class may keep state of its
own, so that `match` is a relation and the answer of `can_match` is left open. -/
structure Matchmaker (T : Traits) (D : Type) where
  construct : T.Json → D
  isValid : D → Bool
  getCancelData : T.Json
  returns : Map T.SessionId D → Int → List (MatchedGame T) → List (T.SessionId × String) → Prop

/-- The entry that the handler called for the event appends; a client that sends a message
wants to leave. -/
def Event.matchUpdate {T : Traits} : Event T → Option (ConnectionUpdate T)
  | .handleOpen id data => some (.connection id data)
  | .handleClose id => some (.disconnection id)
  | .handleMessage id _ => some (.disconnection id)
  | _ => none

theorem Event.matchUpdate_of_unhandled {T : Traits} (e : Event T) (h : e.handled = false) :
    e.matchUpdate = none := by
  cases e <;> first | rfl | cases h

/-- The program points of the thread in `match_players`. -/
inductive MatchPc (T : Traits) where
  -- Before the test of `while(m_jwt_server.is_running())`.
  | testing
  | returned
  -- Before the acquisition of `m_match_lock`.
  | locking
  -- Without a possible match, before the acquisition of `m_connection_update_list_lock`.
  | checking
  -- Inside `m_match_condition.wait`.
  | waiting
  -- Holding `m_connection_update_list_lock`, before the acquisition of `m_match_lock`.
  | relocking
  -- Holding `m_match_lock` from here on, before `delta_time` is computed.
  | timing
  -- In the loop of `process_connection_updates`.
  | connecting (deltaTime : Int) (todo : List (ConnectionUpdate T))
  -- In the call of `complete_session` for a session with a disconnected player.
  | cancelling (deltaTime : Int) (sid : T.SessionId) (todo : List (ConnectionUpdate T))
  -- In the call of `complete_session` for a session with invalid data.
  | rejecting (deltaTime : Int) (sid : T.SessionId) (todo : List (ConnectionUpdate T))
  -- Before the data of the sessions that ended in the last tick are erased.
  | erasing (deltaTime : Int)
  -- Before the call of `match`.
  | matching (deltaTime : Int)
  -- In the loop over the messages that `match` returned.
  | broadcasting (msgs : List (T.SessionId × String)) (games : List (MatchedGame T))
  -- In the loop over the players of the session of a message.
  | broadcastingTo (sid : T.SessionId) (text : String) (todo : Finset T.PlayerId)
      (msgs : List (T.SessionId × String)) (games : List (MatchedGame T))
  -- In the loop over the games that `match` returned.
  | finishing (games : List (MatchedGame T))
  -- In the loop over the sessions of the game.
  | finishingGame (game : MatchedGame T) (games : List (MatchedGame T))
  -- In the call of `complete_session` for the matched session.
  | ending (sid : T.SessionId) (game : MatchedGame T) (games : List (MatchedGame T))

/-- The program points of the thread that calls `run` and `matchmaking_server::stop`. -/
inductive MatchStopPc where
  | idle
  -- In `base_server::stop`.
  | stopping
  -- In `base_server::stop`, before `m_action_cond.notify_all`.
  | notifyingAll
  | clearingSessions
  | clearingUpdates
  | notifying

/-- The members of `matchmaking_server` and the local state of the thread in
`match_players`, which is the only caller of the base server. The field `emitted` is ghost:
the games that `match` has returned so far. -/
structure MatchmakingServer (T : Traits) (D Worker : Type) where
  base : System T Worker Unit
  sessionData : Map T.SessionId D
  sessionPlayers : Map T.SessionId (Finset T.PlayerId)
  connectionUpdates : List (ConnectionUpdate T) × List (ConnectionUpdate T)
  finishedSessions : List T.SessionId × List T.SessionId
  loop : MatchPc T
  stop : MatchStopPc
  emitted : List (MatchedGame T)

namespace MatchmakingServer

variable {T : Traits} {D Worker : Type}

/-- `player_connect`, `player_disconnect` and `process_message`, for a list of events. -/
def handleAll (ms : MatchmakingServer T D Worker) (evs : List (Event T)) :
    MatchmakingServer T D Worker :=
  { ms with
    connectionUpdates :=
      (ms.connectionUpdates.1 ++ evs.filterMap Event.matchUpdate, ms.connectionUpdates.2) }

/-- `std::swap` of the two lists of connection updates. -/
def swapUpdates (ms : MatchmakingServer T D Worker) : MatchmakingServer T D Worker :=
  { ms with connectionUpdates := (ms.connectionUpdates.2, ms.connectionUpdates.1) }

/-- Another player of a known session, whose set exists whenever its data does. -/
def insertPlayer (ms : MatchmakingServer T D Worker) (id : CombinedId T) :
    MatchmakingServer T D Worker :=
  { ms with
    sessionPlayers := ms.sessionPlayers.insert id.session
      (insert id.player ((ms.sessionPlayers.lookup id.session).getD ∅)) }

def createSession (ms : MatchmakingServer T D Worker) (id : CombinedId T) (data : D) :
    MatchmakingServer T D Worker :=
  { ms with
    sessionData := ms.sessionData.emplace id.session data
    sessionPlayers := ms.sessionPlayers.emplace id.session {id.player} }

def eraseSession (ms : MatchmakingServer T D Worker) (sid : T.SessionId) :
    MatchmakingServer T D Worker :=
  { ms with
    sessionData := ms.sessionData.erase sid
    sessionPlayers := ms.sessionPlayers.erase sid }

/-- Erases the sessions that ended in the last tick and keeps those of this tick. -/
def eraseFinished (ms : MatchmakingServer T D Worker) : MatchmakingServer T D Worker :=
  { ms.finishedSessions.1.foldl eraseSession ms with
    finishedSessions := (ms.finishedSessions.2, []) }

section Frames

variable (ms : MatchmakingServer T D Worker)

theorem foldl_eraseSession_eq (sids : List T.SessionId) :
    sids.foldl eraseSession ms =
      { ms with
        sessionData := (sids.foldl eraseSession ms).sessionData
        sessionPlayers := (sids.foldl eraseSession ms).sessionPlayers } := by
  induction sids generalizing ms with
  | nil => rfl
  | cons sid sids ih =>
    rw [List.foldl_cons, ih]
    rfl

theorem sessionData_foldl_eraseSession (sids : List T.SessionId) :
    (sids.foldl eraseSession ms).sessionData =
      sids.foldl (fun m sid => m.erase sid) ms.sessionData := by
  induction sids generalizing ms with
  | nil => rfl
  | cons sid sids ih => exact ih _

theorem sessionPlayers_foldl_eraseSession (sids : List T.SessionId) :
    (sids.foldl eraseSession ms).sessionPlayers =
      sids.foldl (fun m sid => m.erase sid) ms.sessionPlayers := by
  induction sids generalizing ms with
  | nil => rfl
  | cons sid sids ih => exact ih _

theorem lookup_foldl_eraseSession (sids : List T.SessionId) (sid : T.SessionId) :
    (sids.foldl eraseSession ms).sessionData.lookup sid =
      if sid ∈ sids then none else ms.sessionData.lookup sid := by
  rw [sessionData_foldl_eraseSession, Map.lookup_foldl_erase]

theorem lookup_players_foldl_eraseSession (sids : List T.SessionId) (sid : T.SessionId) :
    (sids.foldl eraseSession ms).sessionPlayers.lookup sid =
      if sid ∈ sids then none else ms.sessionPlayers.lookup sid := by
  rw [sessionPlayers_foldl_eraseSession, Map.lookup_foldl_erase]

theorem eraseFinished_eq :
    ms.eraseFinished =
      { ms with
        sessionData := ms.eraseFinished.sessionData
        sessionPlayers := ms.eraseFinished.sessionPlayers
        finishedSessions := (ms.finishedSessions.2, []) } := by
  simp only [eraseFinished]
  rw [foldl_eraseSession_eq]

end Frames

end MatchmakingServer

end WebGameServer
