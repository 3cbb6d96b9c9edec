import WebGameServer.BaseServer.Handlers

namespace WebGameServer
set_option autoImplicit true

/-- A text from or for a player. -/
abbrev Message (T : Traits) := T.PlayerId × String

/-- The entry that the handler called for the event appends. -/
def Event.connectionUpdate {T : Traits} : Event T → Option (ConnectionUpdate T)
  | .handleOpen id data => some (.connection id data)
  | .handleClose id => some (.disconnection id)
  | _ => none

theorem Event.connectionUpdate_of_unhandled {T : Traits} (e : Event T) (h : e.handled = false) :
    e.connectionUpdate = none := by
  cases e <;> first | rfl | cases h

/-- The type parameter `game_instance`. The functions that take the output vector return it
with the messages that they append. -/
structure GameInstance (T : Traits) (G : Type) where
  construct : T.Json → G
  isValid : G → Bool
  connect : G → List (Message T) → T.PlayerId → G × List (Message T)
  disconnect : G → List (Message T) → T.PlayerId → G × List (Message T)
  update : G → List (Message T) → List (Message T) → Int → G × List (Message T)
  isDone : G → Bool
  getState : G → T.Json

inductive GameCall (T : Traits) where
  | connect (pid : T.PlayerId)
  | disconnect (pid : T.PlayerId)
  | update (msgs : List (Message T)) (deltaTime : Int)

/-- An entry of `m_games`. The field `calls` is ghost: the calls made on the instance. -/
structure Game (T : Traits) (G : Type) where
  game : G
  calls : List (GameCall T)

/-- The program points of the thread in `update_games`. -/
inductive GamePc (T : Traits) where
  -- Before the test of `while(m_jwt_server.is_running())`.
  | testing
  | returned
  -- Before the acquisition of `m_game_list_lock`.
  | locking (deltaTime : Int)
  -- Without a game, before the acquisition of `m_connection_update_list_lock`.
  | checking (deltaTime : Int)
  -- Inside `m_game_condition.wait`.
  | waiting (deltaTime : Int)
  -- Holding `m_connection_update_list_lock`, before the acquisition of `m_game_list_lock`.
  | relocking (deltaTime : Int)
  -- Holding `m_game_list_lock` from here on, before the comparison with `timestep`.
  | timing (deltaTime : Int)
  -- In the loop of `process_connection_updates`.
  | connecting (deltaTime : Int) (todo : List (ConnectionUpdate T))
  -- Before the games that ended in the last tick are erased.
  | erasing (deltaTime : Int)
  -- Before `process_game_updates`.
  | updating (deltaTime : Int)
  -- In the loop over `m_out_messages`.
  | sending (todo : Finset T.SessionId)
  | sendingTo (sid : T.SessionId) (msgs : List (Message T)) (todo : Finset T.SessionId)
  -- In the loop over `m_games` that looks for ended games.
  | finishing (todo : Finset T.SessionId)
  -- In the call of `complete_session` for the ended game of `sid`.
  | ending (sid : T.SessionId) (todo : Finset T.SessionId)

/-- The program points of the thread that calls `run` and `game_server::stop`. -/
inductive GameStopPc where
  | idle
  -- In `base_server::stop`.
  | stopping
  -- In `base_server::stop`, before `m_action_cond.notify_all`.
  | notifyingAll
  | notifying
  | clearingGames
  | clearingMessages
  | clearingUpdates
  | clearingCount

/-- The members of `game_server` and the local state of the thread in `update_games`, which
is the only caller of the base server. The field `rejected` is ghost: the sessions that were
completed because a connect carried invalid data. -/
structure GameServer (T : Traits) (G Worker : Type) where
  base : System T Worker Unit
  games : Map T.SessionId (Game T G)
  gameCount : Nat
  inMessages : Map T.SessionId (List (Message T)) × Map T.SessionId (List (Message T))
  connectionUpdates : List (ConnectionUpdate T) × List (ConnectionUpdate T)
  outMessages : Map T.SessionId (List (Message T))
  finishedGames : List T.SessionId
  loop : GamePc T
  stop : GameStopPc
  rejected : List T.SessionId

namespace GameServer

variable {T : Traits} {G Worker : Type}

/-- `m_in_messages.first[id.session].emplace_back(id.player, data)`. -/
def processMessage (gs : GameServer T G Worker) (id : CombinedId T) (data : String) :
    GameServer T G Worker :=
  { gs with
    inMessages :=
      (gs.inMessages.1.insert id.session
        ((gs.inMessages.1.lookup id.session).getD [] ++ [(id.player, data)]),
        gs.inMessages.2) }

def playerConnect (gs : GameServer T G Worker) (id : CombinedId T) (data : T.Json) :
    GameServer T G Worker :=
  { gs with
    connectionUpdates :=
      (gs.connectionUpdates.1 ++ [.connection id data], gs.connectionUpdates.2) }

def playerDisconnect (gs : GameServer T G Worker) (id : CombinedId T) :
    GameServer T G Worker :=
  { gs with
    connectionUpdates := (gs.connectionUpdates.1 ++ [.disconnection id], gs.connectionUpdates.2) }

/-- The handlers that the constructor registers with the base server. -/
def handle (gs : GameServer T G Worker) : Event T → GameServer T G Worker
  | .handleOpen id data => gs.playerConnect id data
  | .handleClose id => gs.playerDisconnect id
  | .handleMessage id msg => gs.processMessage id msg
  | _ => gs

/-- The output vector of a session, which exists whenever its game does. -/
def outOf (gs : GameServer T G Worker) (sid : T.SessionId) : List (Message T) :=
  (gs.outMessages.lookup sid).getD []

/-- Stores what a call on the game of `sid` returned. -/
def store (gs : GameServer T G Worker) (sid : T.SessionId) (calls : List (GameCall T))
    (r : G × List (Message T)) : GameServer T G Worker :=
  { gs with
    games := gs.games.insert sid ⟨r.1, calls⟩
    outMessages := gs.outMessages.insert sid r.2 }

def connectPlayer (inst : GameInstance T G) (gs : GameServer T G Worker) (g : Game T G)
    (id : CombinedId T) : GameServer T G Worker :=
  gs.store id.session (g.calls ++ [.connect id.player])
    (inst.connect g.game (gs.outOf id.session) id.player)

def disconnectPlayer (inst : GameInstance T G) (gs : GameServer T G Worker) (g : Game T G)
    (id : CombinedId T) : GameServer T G Worker :=
  gs.store id.session (g.calls ++ [.disconnect id.player])
    (inst.disconnect g.game (gs.outOf id.session) id.player)

def createGame (gs : GameServer T G Worker) (sid : T.SessionId) (game : G) :
    GameServer T G Worker :=
  { gs with
    games := gs.games.insert sid ⟨game, []⟩
    outMessages := gs.outMessages.emplace sid []
    gameCount := gs.gameCount + 1 }

def eraseGame (gs : GameServer T G Worker) (sid : T.SessionId) : GameServer T G Worker :=
  { gs with
    outMessages := gs.outMessages.erase sid
    games := gs.games.erase sid
    gameCount := sizeDecrement gs.gameCount }

/-- The body of the loop of `process_game_updates`. -/
def updateGame (inst : GameInstance T G) (deltaTime : Int) (gs : GameServer T G Worker)
    (sid : T.SessionId) : GameServer T G Worker :=
  match gs.games.lookup sid with
  | some g =>
    let msgs := (gs.inMessages.2.lookup sid).getD []
    gs.store sid (g.calls ++ [.update msgs deltaTime])
      (inst.update g.game (gs.outOf sid) msgs deltaTime)
  | none => gs

/-- `std::swap` of the two lists of connection updates. -/
def swapUpdates (gs : GameServer T G Worker) : GameServer T G Worker :=
  { gs with connectionUpdates := (gs.connectionUpdates.2, gs.connectionUpdates.1) }

def swapMessages (gs : GameServer T G Worker) : GameServer T G Worker :=
  { gs with inMessages := (gs.inMessages.2, gs.inMessages.1) }

def processGameUpdates (inst : GameInstance T G) (gs : GameServer T G Worker)
    (deltaTime : Int) (order : List T.SessionId) : GameServer T G Worker :=
  let gs' := order.foldl (updateGame inst deltaTime) gs.swapMessages
  { gs' with inMessages := (gs'.inMessages.1, ∅) }

section Frames

variable (gs : GameServer T G Worker)

theorem foldl_handle_eq (evs : List (Event T)) :
    evs.foldl handle gs =
      { gs with
        connectionUpdates :=
          (gs.connectionUpdates.1 ++ evs.filterMap Event.connectionUpdate,
            gs.connectionUpdates.2)
        inMessages := (evs.foldl handle gs).inMessages } := by
  induction evs generalizing gs with
  | nil => simp only [List.foldl_nil, List.filterMap_nil, List.append_nil]
  | cons e evs ih =>
    rw [List.foldl_cons, ih]
    cases e <;> simp only [handle, playerConnect, playerDisconnect, processMessage,
      List.filterMap_cons, Event.connectionUpdate, List.append_assoc, List.singleton_append]

theorem lookup_eraseGame (a sid : T.SessionId) :
    (gs.eraseGame a).games.lookup sid = if sid = a then none else gs.games.lookup sid :=
  Map.lookup_erase_ite gs.games a sid

theorem foldl_updateGame_eq (inst : GameInstance T G) (deltaTime : Int)
    (order : List T.SessionId) :
    order.foldl (updateGame inst deltaTime) gs =
      { gs with
        games := (order.foldl (updateGame inst deltaTime) gs).games
        outMessages := (order.foldl (updateGame inst deltaTime) gs).outMessages } := by
  induction order generalizing gs with
  | nil => rfl
  | cons sid order ih =>
    rw [List.foldl_cons, ih]
    simp only [updateGame]
    split <;> rfl

def updated (inst : GameInstance T G) (deltaTime : Int) (sid : T.SessionId) (g : Game T G) :
    Game T G :=
  let msgs := (gs.inMessages.2.lookup sid).getD []
  ⟨(inst.update g.game (gs.outOf sid) msgs deltaTime).1, g.calls ++ [.update msgs deltaTime]⟩

theorem lookup_updateGame (inst : GameInstance T G) (deltaTime : Int) (a sid : T.SessionId) :
    (gs.updateGame inst deltaTime a).games.lookup sid =
      if sid = a then (gs.games.lookup sid).map (gs.updated inst deltaTime sid)
      else gs.games.lookup sid := by
  simp only [updateGame]
  split
  · next g hg =>
    simp only [store, Map.lookup_insert_ite]
    by_cases h : sid = a
    · subst h
      simp only [↓reduceIte, hg, Option.map_some, updated]
    · simp only [h, ↓reduceIte]
  · next hg =>
    by_cases h : sid = a
    · subst h
      simp only [↓reduceIte, hg, Option.map_none]
    · simp only [h, ↓reduceIte]

theorem updated_updateGame (inst : GameInstance T G) (deltaTime : Int) {a sid : T.SessionId}
    (h : sid ≠ a) (g : Game T G) :
    (gs.updateGame inst deltaTime a).updated inst deltaTime sid g =
      gs.updated inst deltaTime sid g := by
  simp only [updateGame]
  split
  · simp only [updated, outOf, store, Map.lookup_insert_ite, h, ↓reduceIte]
  · rfl

theorem lookup_foldl_updateGame (inst : GameInstance T G) (deltaTime : Int)
    (order : List T.SessionId) (hn : order.Nodup) (sid : T.SessionId) :
    (order.foldl (updateGame inst deltaTime) gs).games.lookup sid =
      if sid ∈ order then (gs.games.lookup sid).map (gs.updated inst deltaTime sid)
      else gs.games.lookup sid := by
  induction order generalizing gs with
  | nil => rw [List.foldl_nil, if_neg List.not_mem_nil]
  | cons a order ih =>
    obtain ⟨ha, hn⟩ := List.nodup_cons.1 hn
    rw [List.foldl_cons, ih _ hn, lookup_updateGame]
    simp only [List.mem_cons]
    by_cases h : sid = a
    · subst h
      simp only [ha, ↓reduceIte, true_or]
    · simp only [h, ↓reduceIte, false_or]
      by_cases hm : sid ∈ order
      · simp only [hm, ↓reduceIte]
        congr 1
        funext g
        exact gs.updated_updateGame inst deltaTime h g
      · simp only [hm, ↓reduceIte]

theorem processGameUpdates_eq (inst : GameInstance T G) (deltaTime : Int)
    (order : List T.SessionId) :
    gs.processGameUpdates inst deltaTime order =
      { gs with
        games := (gs.processGameUpdates inst deltaTime order).games
        outMessages := (gs.processGameUpdates inst deltaTime order).outMessages
        inMessages := (gs.inMessages.2, ∅) } := by
  simp only [processGameUpdates]
  rw [foldl_updateGame_eq]
  rfl

theorem processGameUpdates_base (inst : GameInstance T G) (deltaTime : Int)
    (order : List T.SessionId) : (gs.processGameUpdates inst deltaTime order).base = gs.base := by
  rw [processGameUpdates_eq]

theorem lookup_processGameUpdates (inst : GameInstance T G) (deltaTime : Int)
    (order : List T.SessionId) (hn : order.Nodup) (ho : order.toFinset = gs.games.keys)
    (sid : T.SessionId) :
    (gs.processGameUpdates inst deltaTime order).games.lookup sid =
      (gs.games.lookup sid).map (gs.swapMessages.updated inst deltaTime sid) := by
  simp only [processGameUpdates]
  rw [lookup_foldl_updateGame _ _ _ _ hn]
  by_cases h : sid ∈ order
  · rw [if_pos h]
    rfl
  · rw [if_neg h]
    have hnone : gs.games.lookup sid = none := by
      rw [← List.mem_toFinset, ho, Finmap.mem_keys] at h
      exact Finmap.lookup_eq_none.2 h
    have hs : gs.swapMessages.games.lookup sid = none := hnone
    rw [hs, hnone, Option.map_none]

end Frames

end GameServer

end WebGameServer
