import WebGameServer.GameServer.Batches
import WebGameServer.MatchmakingServer.Erasure

namespace WebGameServer
set_option autoImplicit true

/-- The connection updates that a step to the other program point takes from those left. -/
def MatchPc.taken {T : Traits} (pc pc' : MatchPc T) : List (ConnectionUpdate T) :=
  pc.todo.take (pc.todo.length - pc'.todo.length)

section Local

variable {T : Traits} {D Worker : Type} {cfg : Config T} {mm : Matchmaker T D} {timestep : Int}
  {ms ms' : MatchmakingServer T D Worker}

/-- `m_connection_updates` with the loop that processes them. -/
def MatchmakingServer.updates (ms : MatchmakingServer T D Worker) :
    DoubleBuffer (ConnectionUpdate T) where
  first := ms.connectionUpdates.1
  second := ms.connectionUpdates.2
  working := ms.loop.processing
  todo := ms.loop.todo

theorem MatchPc.todo_idle {pc : MatchPc T} (h : pc.processing = false) : pc.todo = [] := by
  cases pc with
  | connecting t todo | cancelling t sid todo | rejecting t sid todo => cases h
  | _ => rfl

theorem MatchPc.taken_idle {pc pc' : MatchPc T} (h : pc.processing = false) :
    pc.taken pc' = [] := by
  rw [MatchPc.taken, MatchPc.todo_idle h, List.take_nil]

theorem MatchPc.taken_same {pc pc' : MatchPc T} (h : pc'.todo = pc.todo) : pc.taken pc' = [] := by
  rw [MatchPc.taken, h, Nat.sub_self, List.take_zero]

theorem MatchPc.taken_next {pc pc' : MatchPc T} (h : pc.todo = u :: pc'.todo) :
    pc.taken pc' = [u] := by
  rw [MatchPc.taken, h, List.length_cons, Nat.add_sub_cancel_left, List.take_succ_cons,
    List.take_zero]

theorem MatchStep.updates (h : MatchStep cfg mm timestep ms evs ms') :
    DoubleBuffer.Step ms.updates ⟨evs.filterMap Event.matchUpdate, ms.loop.taken ms'.loop⟩
      ms'.updates := by
  -- Outside of `process_connection_updates`.
  have idle {pc : MatchPc T} (hl : ms.loop = pc) (hp : pc.processing = false)
      (hp' : ms'.loop.processing = false)
      (hu : ms'.connectionUpdates = ms.connectionUpdates) :
      DoubleBuffer.Step ms.updates ⟨[], ms.loop.taken ms'.loop⟩ ms'.updates := by
    subst hl
    rw [MatchPc.taken_idle hp]
    refine .of_eq ?_
    rw [MatchmakingServer.updates, MatchmakingServer.updates, hu, hp, hp', MatchPc.todo_idle hp,
      MatchPc.todo_idle hp']
  have next {pc : MatchPc T} {u : ConnectionUpdate T} (hl : ms.loop = pc)
      (hp : pc.processing = true) (hp' : ms'.loop.processing = true)
      (htodo : pc.todo = u :: ms'.loop.todo)
      (hu : ms'.connectionUpdates = ms.connectionUpdates) :
      DoubleBuffer.Step ms.updates ⟨[], ms.loop.taken ms'.loop⟩ ms'.updates := by
    subst hl
    have hstep : DoubleBuffer.Step ms.updates ⟨[], [u]⟩ { ms.updates with todo := ms'.loop.todo } :=
      .take hp htodo
    have hview : ms'.updates = { ms.updates with todo := ms'.loop.todo } := by
      simp only [MatchmakingServer.updates, hu, hp, hp']
    rw [hview, MatchPc.taken_next htodo]
    exact hstep
  have stay {pc : MatchPc T} (hl : ms.loop = pc) (hp : ms'.loop.processing = pc.processing)
      (htodo : ms'.loop.todo = pc.todo) (hu : ms'.connectionUpdates = ms.connectionUpdates) :
      DoubleBuffer.Step ms.updates ⟨[], ms.loop.taken ms'.loop⟩ ms'.updates := by
    subst hl
    rw [MatchPc.taken_same htodo]
    refine .of_eq ?_
    rw [MatchmakingServer.updates, MatchmakingServer.updates, hu, hp, htodo]
  cases h with
  | enter hl hr | exit hl hr | canMatch hl | cannotMatch hl | wait hl hu | pass hl hu
  | wakeStopped hl hr | wake hl hr hu | recheck hl hr hu | relock hl | sleep t hl ht
  | matchSessions games msgs hl hm | broadcast hl | sendMessage pid hl hm hi hc
  | sendIgnored pid hl hm hi hc | sent hl | broadcastDone hl | takeGame hl | endSession hl hc
  | pushFinished hl | gameDone hl | finish hl => exact idle hl rfl rfl rfl
  | eraseFinished hl =>
    apply idle hl rfl rfl
    rw [MatchmakingServer.eraseFinished_eq]
  | cancelSession hl hd hc | disconnectIgnored hl hd | insertPlayer hl hd
  | createSession hl hd hv | rejectData hl hd hv hc => exact next hl rfl rfl rfl rfl
  | eraseCancelled hl | pushRejected hl => exact stay hl rfl rfl rfl
  | @swapUpdates _ t hl ht =>
    have hstep := DoubleBuffer.Step.swap (b := ms.updates) (congrArg MatchPc.processing hl)
    rw [hl, MatchPc.taken_idle rfl]
    exact hstep
  | @clearUpdates _ t hl =>
    have hstep := DoubleBuffer.Step.clear (b := ms.updates) (congrArg MatchPc.processing hl)
    have htodo : ms.updates.todo = [] := congrArg MatchPc.todo hl
    rw [htodo] at hstep
    rw [hl]
    exact hstep

end Local

section Run

variable {T : Traits} {D Worker : Type} [DecidableEq Worker] {cfg : Config T}
  {mm : Matchmaker T D} {timestep : Int} {ms ms' : MatchmakingServer T D Worker}

theorem MatchmakingStep.updates (h : MatchmakingStep cfg mm timestep ms evs ms')
    (hn : .stopping ∉ evs) :
    DoubleBuffer.Step ms.updates ⟨evs.filterMap Event.matchUpdate, ms.loop.taken ms'.loop⟩
      ms'.updates := by
  have unhandled (hevs : ∀ e ∈ evs, e.handled = false) (hl : ms'.loop = ms.loop)
      (hu : ms'.connectionUpdates = ms.connectionUpdates) :
      DoubleBuffer.Step ms.updates ⟨evs.filterMap Event.matchUpdate, ms.loop.taken ms'.loop⟩
        ms'.updates := by
    rw [filterMap_unhandled hevs Event.matchUpdate_of_unhandled, hl, MatchPc.taken_same rfl]
    refine .of_eq ?_
    rw [MatchmakingServer.updates, MatchmakingServer.updates, hu, hl]
  cases h with
  | transport h => exact unhandled h.unhandled rfl rfl
  | worker w h hfree =>
    have htaken : ms.loop.taken ms.loop = [] := MatchPc.taken_same rfl
    have hstep : DoubleBuffer.Step ms.updates ⟨evs.filterMap Event.matchUpdate, []⟩
        { ms.updates with first := ms.updates.first ++ evs.filterMap Event.matchUpdate } :=
      .push _
    rw [← htaken] at hstep
    exact hstep
  | loop hidle h => exact h.updates
  | call hbusy h => exact unhandled h.unhandled rfl rfl
  | run h => exact unhandled h.unhandled rfl rfl
  | stop h => cases h <;> exact (hn List.mem_cons_self).elim

end Run

end WebGameServer
