import WebGameServer.BaseServer.Traceable
import WebGameServer.GameServer.Instances

namespace WebGameServer
set_option autoImplicit true

section Verdicts

variable {T : Traits} {G Worker : Type} {cfg : Config T} {inst : GameInstance T G}
  {P : GameInstance T G → Prop} {done : G → Bool} {timestep : Int}
  {gs gs' : GameServer T G Worker} {log evs : List (Event T)} {sid : T.SessionId}

/-- The state of a game of the session that is done, or of an invalid game that was constructed
with the data of a player who logged in to the session. -/
inductive Verdict (P : GameInstance T G → Prop) (done : G → Bool) (log : List (Event T))
    (sid : T.SessionId) : T.Json → Prop where
  | ended (inst : GameInstance T G) (g : Game T G) : P inst → Hosted P done log sid g →
      inst.isDone g.game = true → Verdict P done log sid (inst.getState g.game)
  | rejected (inst : GameInstance T G) (pid : T.PlayerId) (data : T.Json) : P inst →
      .handleOpen ⟨pid, sid⟩ data ∈ log → inst.isValid (inst.construct data) = false →
      Verdict P done log sid (inst.getState (inst.construct data))

theorem Verdict.append (h : Verdict P done log sid data) :
    Verdict P done (log ++ evs) sid data := by
  cases h with
  | ended inst g hp hg hd => exact .ended inst g hp hg.append hd
  | rejected inst pid data hp hd hv =>
    exact .rejected inst pid data hp (List.mem_append_left _ hd) hv

variable [DecidableEq Worker]

theorem varyingServer_base (h : (varyingServer cfg P timestep).Reachable gs) :
    (baseServer cfg).Reachable gs.base := by
  apply h.project
  · rintro gs ⟨t, rfl⟩
    exact ⟨t, rfl⟩
  · rintro gs evs gs' - ⟨hn, inst, -, hstep⟩
    rcases hstep.project hn with ⟨-, he⟩ | hb
    · exact .inl he
    · exact .inr ⟨evs, hb⟩

end Verdicts

section Main

variable {T : Traits} {G Worker : Type} [DecidableEq Worker] {cfg : Config T}
  {P : GameInstance T G → Prop} {done : G → Bool} {timestep : Int} {gs : GameServer T G Worker}

end Main

end WebGameServer
