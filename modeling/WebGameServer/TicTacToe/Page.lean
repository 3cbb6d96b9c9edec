import Mathlib.Data.List.Basic
import WebGameServer.Library.Replica
import WebGameServer.TicTacToe.Clock
import WebGameServer.TicTacToe.Reports

namespace WebGameServer
set_option autoImplicit true

namespace Json

def number : Json → Option Int
  | .numberUnsigned n => some n.toNat
  | .numberInteger n => some n.toInt
  | _ => none

def numbers : Json → Option (List Int)
  | .array a => a.mapM number
  | _ => none

def truth : Json → Option Bool
  | .boolean b => some b
  | _ => none

def text : Json → Option (Option String)
  | .string s => some (some s)
  | .null => some none
  | _ => none

end Json

/-- `GameData`. Its numbers are integers. -/
structure GameData where
  board : List Int
  times : List Int
  state : Int
  turn : Int
  player : Int
  done : Bool
  token : Option String
  deriving DecidableEq

namespace GameData

def new : GameData where
  board := List.replicate 9 0
  times := [0, 0]
  turn := 0
  state := 0
  player := 0
  done := false
  token := none

/-- The assignment for a key, with `none` for a value of another type. -/
def assign (fields : List (String × Json)) (key : String) (read : Json → Option α) (old : α) :
    Option α :=
  match fields.lookup key with
  | some v => read v
  | none => some old

/-- `parseUpdate` after `JSON.parse`, with `none` where it throws or stores a value that has not
the type of the field. -/
def parseUpdate (d : GameData) : Json → Option GameData
  | .object fields => do
    let board ← assign fields "board" Json.numbers d.board
    let times ← assign fields "times" Json.numbers d.times
    let turn ← assign fields "turn" Json.number d.turn
    let state ← assign fields "state" Json.number d.state
    let player ← assign fields "player" Json.number d.player
    let done ← assign fields "done" Json.truth d.done
    let token ← assign fields "token" Json.text d.token
    return { board, times, turn, state, player, done, token }
  | .array _ => some d
  | _ => none

/-- `updateGame`, for a turn that is an index of the times. -/
def updateGame (d : GameData) : GameData :=
  { d with times := d.times.modify d.turn.toNat fun t => if t - 10 < 0 then 0 else t - 10 }

def enabled (d : GameData) : Bool := !d.done && d.turn == d.player

/-- `onClick`, with `none` where it does nothing. -/
def onClick (d : GameData) (square : Fin 9) : Option GameData :=
  if d.board[square.val]? = some 0 ∧ d.turn = d.player then
    some
      { d with
        board := d.board.set square.val (if d.turn = 0 then 1 else -1)
        turn := (d.turn + 1) % 2 }
  else none

/-- The text that `onClick` sends. -/
def moveText (square : Fin 9) : String :=
  "\x7b\"move\":[" ++ toString (square.val % 3) ++ "," ++ toString (square.val / 3) ++ "]\x7d"

end GameData

/-- What the page shows apart from the times. -/
structure PageView where
  board : List Int
  turn : Int
  state : Int
  done : Bool
  player : Int
  deriving DecidableEq

def GameData.view (d : GameData) : PageView := ⟨d.board, d.turn, d.state, d.done, d.player⟩

/-- What the page of the player with the seat is to show. -/
def TicTacToeGame.view (g : TicTacToeGame) (seat : Fin 2) : PageView :=
  ⟨g.board.board.toList, g.turn.val, g.totalState, g.isDone, seat.val⟩

def ticTacToeReplica : Replica PageView (Fin 9) where
  turn v := v.turn = v.player ∧ v.done = false
  final v := v.done = true
  legal v square := v.board[square.val]? = some 0
  act v square :=
    { v with
      board := v.board.set square.val (if v.turn = 0 then 1 else -1)
      turn := (v.turn + 1) % 2 }
  turn_final := by
    rintro v ⟨-, hd⟩ hf
    cases hd.symm.trans hf
  act_turn := by
    rintro v square ⟨ht, -⟩ ⟨ht', -⟩
    simp only at ht'
    omega

section Reading

def readNumber (n : Int) : Int := (Int64.ofInt n).toInt

variable {lib : JsonLibrary} {g : TicTacToeGame} {d : GameData} {id : TicTacToePlayer}
  {seat : Fin 2}

theorem readNumber_eq {n : Int} (h : n ∈ [-1, 0, 1]) : readNumber n = n := by
  simp only [List.mem_cons, List.not_mem_nil, or_false] at h
  rcases h with rfl | rfl | rfl
  · rfl
  · rfl
  · rfl

theorem numbers_ofInts (l : List Int) : (Json.ofInts l).numbers = some (l.map readNumber) := by
  rw [Json.ofInts, Json.numbers]
  induction l with
  | nil => rfl
  | cons n l ih =>
    rw [List.map_cons, List.mapM_cons, ih]
    rfl

theorem parseUpdate_times (d : GameData) (g : TicTacToeGame) :
    d.parseUpdate (g.getTimeState id) =
      some { d with times := [readNumber (g.times 0), readNumber (g.times 1)] } := rfl

theorem parseUpdate_game (d : GameData) (g : TicTacToeGame) :
    d.parseUpdate (g.getGameState id) =
      some
        { d with
          board := g.board.board.toList.map readNumber
          times := [readNumber (g.times 0), readNumber (g.times 1)]
          turn := readNumber g.turn.val
          state := readNumber g.totalState
          done := g.isDone } := by
  have hboard : GameData.assign g.gameState "board" Json.numbers d.board =
      some (g.board.board.toList.map readNumber) := numbers_ofInts _
  simp only [TicTacToeGame.getGameState, GameData.parseUpdate, hboard]
  rfl

theorem parseUpdate_full (d : GameData) (g : TicTacToeGame) :
    d.parseUpdate (g.getFullState id) =
      some
        { d with
          board := g.board.board.toList.map readNumber
          times := [readNumber (g.times 0), readNumber (g.times 1)]
          turn := readNumber g.turn.val
          state := readNumber g.totalState
          done := g.isDone
          player := if g.playerList.head? = some id then 0 else 1 } := by
  have hboard : GameData.assign (g.gameState ++ [("player", .numberInteger
        (if g.playerList.head? = some id then 0 else 1))]) "board" Json.numbers d.board =
      some (g.board.board.toList.map readNumber) := numbers_ofInts _
  simp only [TicTacToeGame.getFullState, GameData.parseUpdate, hboard]
  split
  · rfl
  · rfl

end Reading

section Views

open TicTacToeGame

variable {lib : JsonLibrary} {g : TicTacToeGame} {d d' : GameData} {id : TicTacToePlayer}
  {seat : Fin 2}

theorem move_board (b : TicTacToeBoard) (x y : Fin 3) (s : Int) :
    (b.move x y s).board = (b.setValue x y s).board := by
  simp only [TicTacToeBoard.move]
  split
  · rfl
  split
  · rfl
  split
  · rfl
  split
  · rfl
  · rfl

theorem boardValues_mem (player : Fin 2) : boardValues player ∈ [-1, 0, 1] := by
  revert player
  decide

theorem played_cells (h : TicTacToeBoard.Played moves player b) :
    ∀ c ∈ b.board.toList, c ∈ [-1, 0, 1] := by
  induction h with
  | start => decide
  | @move moves player b b' i j h hd hadd ih =>
    obtain ⟨x, y, -, -, -, rfl⟩ := TicTacToeBoard.addMove_eq_true.1 hadd
    rw [move_board, TicTacToeBoard.setValue, Vector.toList_set]
    intro c hc
    rcases List.mem_or_eq_of_mem_set hc with hc | rfl
    · exact ih c hc
    · exact boardValues_mem player

theorem cells_read (h : g.BoardPlayed lib) :
    g.board.board.toList.map readNumber = g.board.board.toList := by
  obtain ⟨moves, -, hplayed⟩ := h.played
  have hcells : ∀ c ∈ g.board.board.toList, readNumber c = id c :=
    fun c hc => readNumber_eq (played_cells hplayed c hc)
  rw [List.map_congr_left hcells, List.map_id]

theorem turn_read (turn : Fin 2) : readNumber turn.val = turn.val := by
  revert turn
  decide

/-- What a report that arrives makes of the page. -/
def Report.view (seat : Fin 2) : Report → Option PageView
  | .times _ => none
  | .game g | .full g => some (g.view seat)

def Report.Sound (lib : JsonLibrary) (id : TicTacToePlayer) (seat : Fin 2) : Report → Prop
  | .times _ => True
  | .game g => g.BoardPlayed lib
  | .full g => g.BoardPlayed lib ∧ (if g.playerList.head? = some id then 0 else 1) = seat.val

def Report.isFull : Report → Bool
  | .full _ => true
  | _ => false

theorem parseUpdate_view {r : Report} (hr : r.Sound lib id seat)
    (h : d.parseUpdate (r.value id) = some d')
    (hseat : r.isFull = false → d.player = seat.val) :
    d'.player = seat.val ∧ d'.view = (r.view seat).getD d.view := by
  cases r with
  | times g =>
    rw [Report.value, parseUpdate_times] at h
    cases h
    exact ⟨hseat rfl, rfl⟩
  | game g =>
    rw [Report.value, parseUpdate_game, cells_read hr, turn_read,
      readNumber_eq (BoardPlayed.reported hr)] at h
    cases h
    refine ⟨hseat rfl, ?_⟩
    simp only [GameData.view, hseat rfl]
    rfl
  | full g =>
    rw [Report.value, parseUpdate_full, cells_read hr.1, turn_read,
      readNumber_eq (BoardPlayed.reported hr.1)] at h
    cases h
    have hplayer : (if g.playerList.head? = some id then 0 else 1 : Int) = seat.val := by
      rw [← hr.2]
      split
      · rfl
      · rfl
    refine ⟨hplayer, ?_⟩
    simp only [GameData.view, hplayer]
    rfl

end Views

end WebGameServer
