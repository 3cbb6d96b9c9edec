import WebGameServer.TicTacToe.Admission
import WebGameServer.TicTacToe.Results

namespace WebGameServer
set_option autoImplicit true

section Rated

variable {Hdl Hdl' Worker Worker' : Type} [DecidableEq Hdl] [DecidableEq Hdl']
  [DecidableEq Worker] [DecidableEq Worker'] {lib : JsonLibrary} {uninitialised : Int32}
  {v : Verifiers} {rate : Accounts.Rate} {reqs : List HttpRequest} {req : HttpRequest}
  {mcfg : Config (ticTacToeTraits Hdl)} {gcfg : Config (ticTacToeTraits Hdl')}
  {timestep timestep' : Int}
  {ms : MatchmakingServer (ticTacToeTraits Hdl) TicTacToeSessionData Worker}
  {gs : GameServer (ticTacToeTraits Hdl') ClockedGame Worker'} {pid : UInt64}

end Rated

section Main

variable {Hdl Hdl' Worker Worker' : Type} [DecidableEq Hdl] [DecidableEq Hdl']
  [DecidableEq Worker] [DecidableEq Worker'] {lib : JsonLibrary} {uninitialised : Int32}
  {v : Verifiers} {rate : Accounts.Rate} {before after : List HttpRequest} {req : HttpRequest}
  {mcfg : Config (ticTacToeTraits Hdl)} {gcfg : Config (ticTacToeTraits Hdl')}
  {timestep timestep' : Int}
  {ms : MatchmakingServer (ticTacToeTraits Hdl) TicTacToeSessionData Worker}
  {gs : GameServer (ticTacToeTraits Hdl') ClockedGame Worker'} {pid : UInt64}

end Main

end WebGameServer
