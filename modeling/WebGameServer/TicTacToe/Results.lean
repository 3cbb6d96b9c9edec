import Mathlib.Tactic.NormNum
import Mathlib.Tactic.Ring
import WebGameServer.GameServer.Results
import WebGameServer.TicTacToe.Server

namespace WebGameServer
set_option autoImplicit true

namespace TicTacToeGame

variable {lib : JsonLibrary} {g g' : TicTacToeGame} {player : Fin 2}

def score (g : TicTacToeGame) (player : Fin 2) : ℚ :=
  if player = 0 then 1 / 2 + 1 / 2 * g.totalState else 1 / 2 - 1 / 2 * g.totalState

end TicTacToeGame

section Results

variable {Hdl Worker : Type} [DecidableEq Hdl] [DecidableEq Worker] {lib : JsonLibrary}
  {cfg : Config (ticTacToeTraits Hdl)} {timestep : Int}
  {gs : GameServer (ticTacToeTraits Hdl) ClockedGame Worker}
  {log : List (Event (ticTacToeTraits Hdl))} {sid : UInt64} {data : (ticTacToeTraits Hdl).Json}

end Results

end WebGameServer
