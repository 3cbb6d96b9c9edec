import WebGameServer.BaseServer.Authenticity
import WebGameServer.BaseServer.HandlerCalls
import WebGameServer.BaseServer.Refusal
import WebGameServer.BaseServer.Retention
import WebGameServer.BaseServer.Completion
import WebGameServer.BaseServer.Replacement
import WebGameServer.BaseServer.Shutdown
import WebGameServer.BaseServer.MessageOrder
import WebGameServer.GameServer.Delivery
import WebGameServer.GameServer.Output
import WebGameServer.GameServer.Shutdown
import WebGameServer.GameServer.UpdateOrder
import WebGameServer.MatchmakingServer.Broadcast
import WebGameServer.MatchmakingServer.Retirement
import WebGameServer.TicTacToe.Clock
import WebGameServer.TicTacToe.HostileMessages
import WebGameServer.TicTacToe.Replay
import WebGameServer.MatchmakingServer.Tables
import WebGameServer.TicTacToe.Matchmaker
import WebGameServer.TicTacToe.Ratings
import WebGameServer.TicTacToe.StaticFiles
import WebGameServer.Client
import WebGameServer.Deadlock
import WebGameServer.Queues
import WebGameServer.MinimalTemplate.Entrance
import WebGameServer.Notifications
import WebGameServer.Wakeup
import WebGameServer.BaseServer.Outbound
import WebGameServer.GameServer.Logins
import WebGameServer.GameServer.Results
import WebGameServer.BaseServer.Answers
import WebGameServer.TicTacToe.Play
import WebGameServer.TicTacToe.RatedGames
import WebGameServer.TicTacToe.Signups
