import Mathlib.Data.Fintype.Sum
import WebGameServer.GameServer.Waiting
import WebGameServer.MatchmakingServer.Agreement
import WebGameServer.MatchmakingServer.Waiting

namespace WebGameServer
set_option autoImplicit true

section Servers

variable {T : Traits} {G D Worker Caller : Type} [DecidableEq Worker] [DecidableEq Caller]
  {cfg : Config T} {inst : GameInstance T G} {mm : Matchmaker T D} {timestep : Int}

theorem base_awake {σ : Monitored (System T Worker Caller) Worker}
    (h : ((baseWaiting cfg).monitored.restrict (baseWaiting cfg).Timely).Reachable σ)
    (hc : σ.state.control = .idle) (hr : σ.state.server.isRunning = false) (w : Worker) :
    σ.asleep w = false :=
  Stoppable.awake baseWaiting_lawful h w hr (congrArg ControlPc.owes hc)

theorem game_awake {σ : Monitored (GameServer T G Worker) (Worker ⊕ Unit)}
    (h : ((gameWaiting cfg inst timestep).monitored.restrict
      (gameWaiting cfg inst timestep).Timely).Reachable σ)
    (hs : σ.state.stop = .idle) (hr : σ.state.base.server.isRunning = false)
    (t : Worker ⊕ Unit) : σ.asleep t = false := by
  have hstate := Stoppable.reachable_state h.of_restrict
  have hc : σ.state.base.control = .idle :=
    (control_invariant.reachable hstate).trans (congrArg GameStopPc.control hs)
  apply Stoppable.awake gameWaiting_lawful h t hr
  cases t with
  | inl w => exact congrArg ControlPc.owes hc
  | inr u => exact congrArg GameStopPc.owes hs

theorem match_awake {σ : Monitored (MatchmakingServer T D Worker) (Worker ⊕ Unit)}
    (h : ((matchWaiting cfg mm timestep).monitored.restrict
      (matchWaiting cfg mm timestep).Timely).Reachable σ)
    (hs : σ.state.stop = .idle) (hr : σ.state.base.server.isRunning = false)
    (t : Worker ⊕ Unit) : σ.asleep t = false := by
  have hstate := Stoppable.reachable_state h.of_restrict
  have hc : σ.state.base.control = .idle :=
    (matchControl_invariant.reachable hstate).trans (congrArg MatchStopPc.control hs)
  apply Stoppable.awake matchWaiting_lawful h t hr
  cases t with
  | inl w => exact congrArg ControlPc.owes hc
  | inr u => exact congrArg MatchStopPc.owes hs

end Servers

/-- As long as no thread begins to wait after it has missed the notification of a stop, no
worker and no loop sleeps once `stop` has returned, in each of the three servers. -/
theorem no_thread_sleeps_through_stop {T : Traits} {G D Worker : Type} (Caller : Type)
    [DecidableEq Worker] [DecidableEq Caller] (cfg : Config T) (inst : GameInstance T G)
    (mm : Matchmaker T D) (timestep : Int) :
    (∀ σ : Monitored (System T Worker Caller) Worker,
      ((baseWaiting cfg).monitored.restrict (baseWaiting cfg).Timely).Reachable σ →
      σ.state.control = .idle → σ.state.server.isRunning = false →
      ∀ w, σ.asleep w = false) ∧
    (∀ σ : Monitored (GameServer T G Worker) (Worker ⊕ Unit),
      ((gameWaiting cfg inst timestep).monitored.restrict
        (gameWaiting cfg inst timestep).Timely).Reachable σ →
      σ.state.stop = .idle → σ.state.base.server.isRunning = false →
      ∀ t, σ.asleep t = false) ∧
    ∀ σ : Monitored (MatchmakingServer T D Worker) (Worker ⊕ Unit),
      ((matchWaiting cfg mm timestep).monitored.restrict
        (matchWaiting cfg mm timestep).Timely).Reachable σ →
      σ.state.stop = .idle → σ.state.base.server.isRunning = false →
      ∀ t, σ.asleep t = false :=
  ⟨fun _ => base_awake, fun _ => game_awake, fun _ => match_awake⟩

/-- The condition is exact: a step breaks it only if it puts a thread to sleep for good, with
`m_is_running` cleared and no notification of `stop` to come. -/
theorem timely_iff_awake_afterwards {T : Traits} {G D Worker Caller : Type}
    [DecidableEq Worker] [DecidableEq Caller] (cfg : Config T) (inst : GameInstance T G)
    (mm : Matchmaker T D) (timestep : Int) :
    (∀ σ l σ', ((baseWaiting cfg).monitored.restrict (baseWaiting cfg).Timely).Reachable σ →
      (baseWaiting cfg : Stoppable (System T Worker Caller) _ _).MonitorStep σ l σ' →
      ((baseWaiting cfg).Timely σ l σ' ↔ (baseWaiting cfg).Awake σ')) ∧
    (∀ σ l σ', ((gameWaiting cfg inst timestep).monitored.restrict
        (gameWaiting cfg inst timestep).Timely).Reachable σ →
      (gameWaiting cfg inst timestep : Stoppable (GameServer T G Worker) _ _).MonitorStep
        σ l σ' →
      ((gameWaiting cfg inst timestep).Timely σ l σ' ↔
        (gameWaiting cfg inst timestep).Awake σ')) ∧
    ∀ σ l σ', ((matchWaiting cfg mm timestep).monitored.restrict
        (matchWaiting cfg mm timestep).Timely).Reachable σ →
      (matchWaiting cfg mm timestep : Stoppable (MatchmakingServer T D Worker) _ _).MonitorStep
        σ l σ' →
      ((matchWaiting cfg mm timestep).Timely σ l σ' ↔
        (matchWaiting cfg mm timestep).Awake σ') :=
  ⟨fun _ _ _ => Stoppable.timely_iff_awake baseWaiting_lawful,
    fun _ _ _ => Stoppable.timely_iff_awake gameWaiting_lawful,
    fun _ _ _ => Stoppable.timely_iff_awake matchWaiting_lawful⟩

/-- The base server of natural numbers with one worker and its condition variable. -/
abbrev natBaseWaiting : Stoppable (System natTraits Unit Unit) Unit (List (Event natTraits)) :=
  baseWaiting natConfig

/-- The worker tests `m_is_running`, `stop` runs from its beginning to its end, and the worker
finds the queue empty. No client ever connects. -/
theorem worker_sleeps_through_stop :
    ∃ σ, natBaseWaiting.monitored.Reachable σ ∧ σ.state.control = .idle ∧
      σ.state.server.isRunning = false ∧ σ.state.worker () = .waiting ∧
      σ.asleep () = true := by
  have h0 : natBaseWaiting.monitored.Reachable ⟨.start 0, fun _ => false, fun _ => false⟩ :=
    .init ⟨⟨0, rfl⟩, fun _ => rfl, fun _ => rfl⟩
  have h1 := h0.step (.step (.control (.run rfl)) nofun)
  have h2 := h1.step (.step (.worker () (.enter rfl)) nofun)
  have h3 := h2.step (.step (.control (.stop rfl)) nofun)
  have h4 := h3.step (.step (.control (.clearAll rfl)) nofun)
  have h5 := h4.step (.step (.control .notifyAll) nofun)
  have h6 := h5.step (.step (.worker () (.wait rfl)) nofun)
  exact ⟨_, h6, rfl, rfl, rfl, rfl⟩

/-- The game server of natural numbers with one worker and its two condition variables. -/
abbrev natGameWaiting :
    Stoppable (GameServer natTraits Nat Unit) (Unit ⊕ Unit) (List (Event natTraits)) :=
  gameWaiting natConfig natGame 0

/-- The worker and the loop of a game server wait before `stop` is called. -/
theorem no_thread_sleeps_through_stop_waiting :
    ∃ σ : Monitored (GameServer natTraits Nat Unit) (Unit ⊕ Unit), σ.state.stop = .idle ∧
      σ.state.base.server.isRunning = false ∧ σ.state.base.worker () = .waiting ∧
      σ.state.loop = .waiting 0 ∧ ∀ t, σ.asleep t = false := by
  have h0 : (natGameWaiting.monitored.restrict natGameWaiting.Timely).Reachable
      ⟨.start 0, fun _ => false, fun _ => false⟩ :=
    .init ⟨⟨0, rfl⟩, fun _ => rfl, fun _ => rfl⟩
  have go {σ : Monitored (GameServer natTraits Nat Unit) (Unit ⊕ Unit)}
      {evs : List (Event natTraits)} {gs : GameServer natTraits Nat Unit}
      (h : (natGameWaiting.monitored.restrict natGameWaiting.Timely).Reachable σ)
      (hs : GameStep natConfig natGame 0 σ.state evs gs)
      (ht : ∀ t, (σ.asleep t = true → natGameWaiting.waits gs t = true) ∧ σ.missed t = false) :
      (natGameWaiting.monitored.restrict natGameWaiting.Timely).Reachable
        ⟨gs, natGameWaiting.sleeps σ gs, natGameWaiting.misses σ gs⟩ :=
    h.step ⟨.step hs fun t => (ht t).1, fun t _ _ => (ht t).2⟩
  have h1 := go h0 (.run (.run rfl)) (by decide)
  have h2 := go h1 (.worker () (.enter rfl) nofun) (by decide)
  have h3 := go h2 (.worker () (.wait rfl) nofun) (by decide)
  have h4 := go h3 (.loop rfl (.enter 0 rfl rfl)) (by decide)
  have h5 := go h4 (.loop rfl (.noGames rfl rfl)) (by decide)
  have h6 := go h5 (.loop rfl (.wait rfl rfl)) (by decide)
  have h7 := go h6 (.stop (.stop rfl rfl (.stop rfl))) (by decide)
  have h8 := go h7 (.stop (.clearAll rfl rfl (.clearAll rfl))) (by decide)
  have h9 := go h8 (.stop (.notifyAll rfl rfl .notifyAll)) (by decide)
  have h10 := go h9 (.stop (.notify rfl)) (by decide)
  have h11 := go h10 (.stop (.clearGames rfl rfl)) (by decide)
  have h12 := go h11 (.stop (.clearMessages rfl)) (by decide)
  have h13 := go h12 (.stop (.clearUpdates rfl rfl)) (by decide)
  have h14 := go h13 (.stop (.clearCount rfl)) (by decide)
  exact ⟨_, rfl, rfl, rfl, rfl,
    (no_thread_sleeps_through_stop Unit natConfig natGame natMatchmaker 0).2.1 _ h14 rfl rfl⟩

end WebGameServer
