import WebGameServer.BaseServer.Waiting
import WebGameServer.MatchmakingServer.Loop

namespace WebGameServer
set_option autoImplicit true

section Points

variable {T : Traits}

/-- Inside `m_match_condition.wait`. -/
def MatchPc.waits : MatchPc T → Bool
  | .waiting => true
  | _ => false

/-- Between a successful test of `is_running` and the wait on `m_match_condition`. -/
def MatchPc.enters : MatchPc T → Bool
  | .locking | .checking => true
  | _ => false

/-- In `stop`, with `m_is_running` cleared and `m_match_condition.notify_one` still to come. -/
def MatchStopPc.owes : MatchStopPc → Bool
  | .idle => false
  | _ => true

/-- The step over `m_match_condition.notify_one`. -/
def MatchStopPc.notifies : MatchStopPc → MatchStopPc → Bool
  | .notifying, .idle => true
  | _, _ => false

/-- Where `base_server::stop` is. -/
def MatchStopPc.control : MatchStopPc → ControlPc
  | .stopping => .stopping
  | .notifyingAll => .notifying
  | _ => .idle

theorem MatchStopPc.owes_of_notifies (pc pc' : MatchStopPc) (h : pc.notifies pc' = true) :
    pc.owes = true ∧ pc'.owes = false := by
  cases pc <;> cases pc' <;> first | exact ⟨rfl, rfl⟩ | cases h

end Points

section Steps

variable {T : Traits} {D Worker : Type} {cfg : Config T} {mm : Matchmaker T D}
  {timestep : Int} {ms ms' : MatchmakingServer T D Worker}

theorem MatchStep.isRunning (h : MatchStep cfg mm timestep ms evs ms') :
    ms'.base.server.isRunning = ms.base.server.isRunning := by
  cases h with
  | cancelSession hl hd hc | rejectData hl hn hv hc
  | sendMessage pid hl hm hi hc | sendIgnored pid hl hm hi hc | endSession hl hc =>
    exact hc.isRunning
  | eraseFinished hl => rw [MatchmakingServer.eraseFinished_eq]
  | _ => rfl

theorem MatchStep.waits (h : MatchStep cfg mm timestep ms evs ms')
    (hw : ms'.loop.waits = true) : ms.loop.enters = true := by
  cases h with
  | wait hl hu => exact congrArg MatchPc.enters hl
  | _ => cases hw

theorem MatchStep.enters (h : MatchStep cfg mm timestep ms evs ms')
    (he : ms'.loop.enters = true) :
    ms.base.server.isRunning = true ∨ ms.loop.enters = true := by
  cases h with
  | enter hl hr => exact .inl hr
  | cannotMatch hl => exact .inr (congrArg MatchPc.enters hl)
  | recheck hl hr hu => exact .inl hr
  | _ => cases he

variable [DecidableEq Worker]

theorem MatchmakingStep.base (h : MatchmakingStep cfg mm timestep ms evs ms') :
    ms'.base = ms.base ∨ ∃ evs', Step cfg ms.base evs' ms'.base := by
  cases h with
  | stop h =>
    cases h with
    | stop hs hb hc | clearAll hs hb hc | notifyAll hs hb hc =>
      exact .inr ⟨_, .control (hb ▸ hc)⟩
    | _ => exact .inl rfl
  | transport h => exact .inr ⟨_, .transport h⟩
  | worker w h hfree => exact .inr ⟨_, .worker w h⟩
  | loop hidle h => exact (h.project hidle).imp (·.2) fun hs => ⟨_, hs⟩
  | call hbusy h => exact .inr ⟨_, .caller () h⟩
  | run h => exact .inr ⟨_, .control h⟩

end Steps

section Server

variable {T : Traits} {D Worker : Type} [DecidableEq Worker]

/-- The thread in `match_players` with `m_match_condition`. -/
def matchLoopWaiting (cfg : Config T) (mm : Matchmaker T D) (timestep : Int) :
    Stoppable (MatchmakingServer T D Worker) Unit (List (Event T)) where
  system := matchmakingServer cfg mm timestep
  running ms := ms.base.server.isRunning
  waits ms _ := ms.loop.waits
  enters ms _ := ms.loop.enters
  owes ms _ := ms.stop.owes
  notifies ms ms' _ := ms.stop.notifies ms'.stop
  rechecks _ _ := False

variable {cfg : Config T} {mm : Matchmaker T D} {timestep : Int}
  {ms ms' : MatchmakingServer T D Worker}

theorem MatchStopStep.move (h : MatchStopStep ms evs ms') :
    (matchLoopWaiting cfg mm timestep).Move ms ms' () := by
  cases h with
  | stop hs hb hc =>
    cases hc with
    | stop hr => exact .clear hr (congrArg MatchStopPc.owes hs) rfl rfl rfl
  | clearAll hs hb hc =>
    cases hc with
    | clearAll hn => exact .stop rfl (.inl (congrArg MatchStopPc.owes hs).symm) rfl rfl
  | notifyAll hs hb hc =>
    cases hc with
    | notifyAll => exact .stop rfl (.inl (congrArg MatchStopPc.owes hs).symm) rfl rfl
  | clearSessions hs hl | clearUpdates hs hl =>
    exact .stop rfl (.inl (congrArg MatchStopPc.owes hs).symm) rfl rfl
  | notify hs => exact .stop rfl (.inr (congrArg (MatchStopPc.notifies · _) hs)) rfl rfl

theorem MatchmakingStep.move (h : MatchmakingStep cfg mm timestep ms evs ms') :
    (matchLoopWaiting cfg mm timestep).Move ms ms' () := by
  cases h with
  | transport h | worker w h hfree => exact .other h.isRunning.trans rfl rfl rfl
  | loop hidle h =>
    exact .self h.isRunning (congrArg MatchStopPc.owes h.frame.2.2) h.waits h.enters
  | call hbusy h => exact .other h.isRunning.trans rfl rfl rfl
  | run h =>
    refine .other (fun hr => ?_) rfl rfl rfl
    generalize ms.base.control = control at h
    cases h with
    | run hn => rfl
  | stop h => exact h.move

theorem matchLoopWaiting_lawful :
    (matchLoopWaiting cfg mm timestep : Stoppable (MatchmakingServer T D Worker) _ _).Lawful where
  init := by
    rintro ms - ⟨t, rfl⟩
    rfl
  move h _ := MatchmakingStep.move h
  notifies := MatchStopPc.owes_of_notifies _ _
  rechecks := False.elim

theorem matchControl_invariant : (matchmakingServer cfg mm timestep).Invariant
    fun ms : MatchmakingServer T D Worker => ms.base.control = ms.stop.control where
  init := by
    intro ms hinit
    obtain ⟨t, rfl⟩ := hinit
    rfl
  step {ms evs ms'} _ hi h := by
    cases h with
    | transport h | worker w h hfree => exact hi
    | loop hidle h =>
      obtain ⟨-, hc, hs⟩ := h.frame
      rw [hc, hs]
      exact hi
    | call hbusy h => exact hi
    | run h =>
      generalize hc : ms.base.control = control at h hi
      cases h with
      | run hr => exact hi
    | stop h =>
      cases h with
      | stop hs hb hc | clearAll hs hb hc | notifyAll hs hb hc =>
        cases hc
        rfl
      | clearSessions hs hl | clearUpdates hs hl | notify hs =>
        rw [hs] at hi
        exact hi

/-- The workers and the loop of a matchmaking server. -/
def matchWaiting (cfg : Config T) (mm : Matchmaker T D) (timestep : Int) :
    Stoppable (MatchmakingServer T D Worker) (Worker ⊕ Unit) (List (Event T)) :=
  ((baseWaiting cfg).part (matchmakingServer cfg mm timestep) MatchmakingServer.base).both
    (matchLoopWaiting cfg mm timestep)

theorem matchWaiting_lawful :
    (matchWaiting cfg mm timestep : Stoppable (MatchmakingServer T D Worker) _ _).Lawful := by
  apply Stoppable.Lawful.both (baseWaiting_lawful.part ?_ ?_) matchLoopWaiting_lawful rfl rfl
  · intro ms hinit
    obtain ⟨t, rfl⟩ := hinit
    exact ⟨t, rfl⟩
  · exact fun h => MatchmakingStep.base h

end Server

end WebGameServer
