import WebGameServer.Library.Map
import WebGameServer.Library.Transition
import WebGameServer.TicTacToe.Board
import WebGameServer.TicTacToe.Json

namespace WebGameServer
set_option autoImplicit true

/-- `tic_tac_toe_player_traits::id::player_id`. -/
abbrev TicTacToePlayer := UInt64

/-- A text from or for a player. -/
abbrev TicTacToeMessage := TicTacToePlayer × String

/-- The members of `tic_tac_toe_game`. The map `m_data_map` is given by the field `is_connected`
of its values. -/
structure TicTacToeGame where
  playerList : List TicTacToePlayer
  dataMap : Map TicTacToePlayer Bool
  valid : Bool
  started : Bool
  gameOver : Bool
  turn : Fin 2
  state : Int
  times : Fin 2 → Int
  elapsedTime : Int
  moveList : List Json
  board : TicTacToeBoard

/-- The calls that the game server makes, with the time in milliseconds that an update reads. -/
inductive TicTacToeCall where
  | connect (id : TicTacToePlayer)
  | disconnect (id : TicTacToePlayer)
  | update (inMessages : List TicTacToeMessage) (deltaTime : Int) (count : Int)

namespace TicTacToeGame

def construct (msg : Json) : TicTacToeGame where
  playerList := []
  dataMap := ∅
  valid :=
    match msg.atKey "matched" >>= Json.getBool with
    | .value isMatched => isMatched
    | _ => false
  started := false
  gameOver := false
  turn := 0
  state := 0
  times _ := 100000
  elapsedTime := 0
  moveList := []
  board := .start

def isDone (g : TicTacToeGame) : Bool := g.board.isDone || g.gameOver

def jsonTimes (g : TicTacToeGame) : Json := .ofInts [g.times 0, g.times 1]

def jsonTurn (g : TicTacToeGame) : Json := .numberInteger (.ofInt g.turn.val)

/-- The state of the board and of the clock together. -/
def totalState (g : TicTacToeGame) : Int := g.board.state + g.state

/-- `get_state`. -/
def getState (g : TicTacToeGame) : Json :=
  .object [("board", .ofInts g.board.board.toList), ("turn", g.jsonTurn),
    ("moves", .array g.moveList), ("times", g.jsonTimes),
    ("state", .numberInteger (.ofInt g.totalState)), ("done", .boolean g.isDone),
    ("players", .array (g.playerList.map .numberUnsigned)),
    ("scores", .array [.numberFloat (1 / 2 + 1 / 2 * g.totalState),
      .numberFloat (1 / 2 - 1 / 2 * g.totalState)])]

/-- The fields of `get_game_state`. -/
def gameState (g : TicTacToeGame) : List (String × Json) :=
  [("board", .ofInts g.board.board.toList), ("times", g.jsonTimes), ("turn", g.jsonTurn),
    ("state", .numberInteger (.ofInt g.totalState)), ("done", .boolean g.isDone)]

def getGameState (g : TicTacToeGame) (_id : TicTacToePlayer) : Json := .object g.gameState

def getFullState (g : TicTacToeGame) (id : TicTacToePlayer) : Json :=
  .object (g.gameState ++
    [("player", .numberInteger (if g.playerList.head? = some id then 0 else 1))])

def getTimeState (g : TicTacToeGame) (_id : TicTacToePlayer) : Json :=
  .object [("times", g.jsonTimes)]

/-- `m_data_map[player].is_connected`. -/
def isConnected (g : TicTacToeGame) (player : TicTacToePlayer) : Bool :=
  (g.dataMap.lookup player).getD false

/-- The loop that sends a text to each connected player. The players of `m_player_list` have
entries in `m_data_map`, which `operator[]` therefore does not extend. -/
def broadcast (lib : JsonLibrary) (g : TicTacToeGame) (text : TicTacToePlayer → Json) :
    List TicTacToeMessage :=
  (g.playerList.filter g.isConnected).map fun player => (player, lib.dump (text player))

def connect (lib : JsonLibrary) (g : TicTacToeGame) (out : List TicTacToeMessage)
    (id : TicTacToePlayer) : TicTacToeGame × List TicTacToeMessage :=
  let g :=
    { g with
      playerList :=
        if g.dataMap.lookup id = none then g.playerList ++ [id] else g.playerList
      dataMap := g.dataMap.insert id true }
  if g.started then (g, out ++ [(id, lib.dump (g.getFullState id))]) else (g, out)

def disconnect (g : TicTacToeGame) (out : List TicTacToeMessage) (id : TicTacToePlayer) :
    TicTacToeGame × List TicTacToeMessage :=
  ({ g with dataMap := g.dataMap.insert id false }, out)

/-- The body of the loop over `m_times`. -/
def checkTime (g : TicTacToeGame) (i : Fin 2) : TicTacToeGame :=
  if g.times i ≤ 0 then
    { g with times := Function.update g.times i 0, state := boardValues i, gameOver := true }
  else g

/-- The clock of the player to move runs and both clocks are looked at. -/
def runClock (g : TicTacToeGame) (deltaTime : Int) : TicTacToeGame :=
  let g := { g with times := Function.update g.times g.turn (g.times g.turn - deltaTime) }
  [0, 1].foldl checkTime g

/-- What `update` does before it reads the messages. -/
def advance (lib : JsonLibrary) (g : TicTacToeGame) (out : List TicTacToeMessage)
    (deltaTime : Int) : TicTacToeGame × List TicTacToeMessage :=
  let g := g.runClock deltaTime
  let g := { g with elapsedTime := g.elapsedTime + deltaTime }
  let (g, out) :=
    if 1000 ≤ g.elapsedTime then
      ({ g with elapsedTime := 0 }, out ++ g.broadcast lib g.getTimeState)
    else (g, out)
  if g.isDone then (g, out ++ g.broadcast lib g.getGameState) else (g, out)

/-- The two coordinates that `player_update` reads first. -/
def readMove (lib : JsonLibrary) (data : Json) : Outcome JsonException (UInt32 × UInt32) := do
  let i ← (← (← data.key "move").index 0).getUnsigned lib
  let j ← (← (← data.key "move").index 1).getUnsigned lib
  return (i, j)

/-- `player_update`, with every exception handled. Nothing throws after the board has changed. -/
def playerUpdate (lib : JsonLibrary) (g : TicTacToeGame) (out : List TicTacToeMessage)
    (id : TicTacToePlayer) (data : Json) :
    Outcome JsonException (TicTacToeGame × List TicTacToeMessage) :=
  Outcome.catchAll
    (do
      let (i, j) ← readMove lib data
      if g.started && !g.isDone then
        match g.playerList[g.turn.val]? with
        | none => .undefined
        | some player =>
          if id = player then
            match g.board.addMove i j (boardValues g.turn) with
            | (true, board) =>
              let move ← data.key "move"
              let g :=
                { g with
                  board := board
                  turn := g.turn + 1
                  moveList := g.moveList ++ [move] }
              return (g, out ++ g.broadcast lib g.getGameState)
            | (false, _) => return (g, out)
          else return (g, out)
      else return (g, out))
    (g, out)

def takeMessage (lib : JsonLibrary) (s : TicTacToeGame × List TicTacToeMessage)
    (msg : TicTacToeMessage) : Outcome JsonException (TicTacToeGame × List TicTacToeMessage) :=
  match lib.parse msg.2 with
  | none => .value s
  | some data => playerUpdate lib s.1 s.2 msg.1 data

/-- `std::swap(m_player_list[0], m_player_list[1])`. -/
def swapPlayers (players : List TicTacToePlayer) : List TicTacToePlayer :=
  match players with
  | first :: second :: rest => second :: first :: rest
  | players => players

def start (lib : JsonLibrary) (g : TicTacToeGame) (out : List TicTacToeMessage)
    (count : Int) : TicTacToeGame × List TicTacToeMessage :=
  let g :=
    { g with
      started := true
      playerList := if count % 2 = 0 then swapPlayers g.playerList else g.playerList }
  (g, out ++ g.broadcast lib g.getFullState)

def update (lib : JsonLibrary) (g : TicTacToeGame) (out : List TicTacToeMessage)
    (inMessages : List TicTacToeMessage) (deltaTime count : Int) :
    Outcome JsonException (TicTacToeGame × List TicTacToeMessage) :=
  if g.started && !g.gameOver then
    inMessages.foldlM (takeMessage lib) (g.advance lib out deltaTime)
  else if g.valid && decide (1 < g.playerList.length) then
    .value (g.start lib out count)
  else .value (g, out)

def call (lib : JsonLibrary) (g : TicTacToeGame) (out : List TicTacToeMessage) :
    TicTacToeCall → Outcome JsonException (TicTacToeGame × List TicTacToeMessage)
  | .connect id => .value (g.connect lib out id)
  | .disconnect id => .value (g.disconnect out id)
  | .update inMessages deltaTime count => g.update lib out inMessages deltaTime count

end TicTacToeGame

/-- A game under any calls. A call that comes to no value has no successor. -/
def ticTacToe (lib : JsonLibrary) : LTS TicTacToeGame TicTacToeCall where
  init g := ∃ msg, g = .construct msg
  step g c g' := ∃ out out', g.call lib out c = .value (g', out')

end WebGameServer
