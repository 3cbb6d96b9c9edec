import WebGameServer.BaseServer.Waiting
import WebGameServer.GameServer.Loop

namespace WebGameServer
set_option autoImplicit true

section Points

variable {T : Traits}

/-- Inside `m_game_condition.wait`. -/
def GamePc.waits : GamePc T → Bool
  | .waiting _ => true
  | _ => false

/-- Between a successful test of `is_running` and the wait on `m_game_condition`. -/
def GamePc.enters : GamePc T → Bool
  | .locking _ | .checking _ => true
  | _ => false

/-- In `stop`, with `m_is_running` cleared and `m_game_condition.notify_one` still to come. -/
def GameStopPc.owes : GameStopPc → Bool
  | .stopping | .notifyingAll | .notifying => true
  | _ => false

/-- The step over `m_game_condition.notify_one`. -/
def GameStopPc.notifies : GameStopPc → GameStopPc → Bool
  | .notifying, .clearingGames => true
  | _, _ => false

/-- Where `base_server::stop` is. -/
def GameStopPc.control : GameStopPc → ControlPc
  | .stopping => .stopping
  | .notifyingAll => .notifying
  | _ => .idle

theorem GameStopPc.owes_of_notifies (pc pc' : GameStopPc) (h : pc.notifies pc' = true) :
    pc.owes = true ∧ pc'.owes = false := by
  cases pc <;> cases pc' <;> first | exact ⟨rfl, rfl⟩ | cases h

end Points

section Steps

variable {T : Traits} {G Worker : Type} {cfg : Config T} {inst : GameInstance T G}
  {timestep : Int} {gs gs' : GameServer T G Worker}

theorem LoopStep.isRunning (h : LoopStep cfg inst timestep gs evs gs') :
    gs'.base.server.isRunning = gs.base.server.isRunning := by
  cases h with
  | rejectData hl hn hv hc | sendMessage hl hc | endGame sid hl hm hg hd hc => exact hc.isRunning
  | updateGames order hl hn ho =>
    exact congrArg (·.server.isRunning) (gs.processGameUpdates_base _ _ _)
  | _ => rfl

theorem LoopStep.waits (h : LoopStep cfg inst timestep gs evs gs')
    (hw : gs'.loop.waits = true) : gs.loop.enters = true := by
  cases h with
  | wait hl hu => exact congrArg GamePc.enters hl
  | eraseFinished hl => cases (congrArg GamePc.waits hl).symm.trans hw
  | _ => cases hw

theorem LoopStep.enters (h : LoopStep cfg inst timestep gs evs gs')
    (he : gs'.loop.enters = true) :
    gs.base.server.isRunning = true ∨ gs.loop.enters = true := by
  cases h with
  | enter t hl hr => exact .inl hr
  | noGames hl hg => exact .inr (congrArg GamePc.enters hl)
  | recheck hl hr hu => exact .inl hr
  | eraseFinished hl => cases (congrArg GamePc.enters hl).symm.trans he
  | _ => cases he

variable [DecidableEq Worker]

theorem GameStep.base (h : GameStep cfg inst timestep gs evs gs') :
    gs'.base = gs.base ∨ ∃ evs', Step cfg gs.base evs' gs'.base := by
  cases h with
  | stop h =>
    cases h with
    | stop hs hb hc | clearAll hs hb hc | notifyAll hs hb hc =>
      exact .inr ⟨_, .control (hb ▸ hc)⟩
    | _ => exact .inl rfl
  | transport h => exact .inr ⟨_, .transport h⟩
  | worker w h hfree => exact .inr ⟨_, .worker w h⟩
  | loop hidle h => exact (h.project hidle).imp (·.2) fun hs => ⟨_, hs⟩
  | call hbusy h => exact .inr ⟨_, .caller () h⟩
  | run h => exact .inr ⟨_, .control h⟩

end Steps

section Server

variable {T : Traits} {G Worker : Type} [DecidableEq Worker]

/-- The thread in `update_games` with `m_game_condition`. -/
def loopWaiting (cfg : Config T) (inst : GameInstance T G) (timestep : Int) :
    Stoppable (GameServer T G Worker) Unit (List (Event T)) where
  system := gameServer cfg inst timestep
  running gs := gs.base.server.isRunning
  waits gs _ := gs.loop.waits
  enters gs _ := gs.loop.enters
  owes gs _ := gs.stop.owes
  notifies gs gs' _ := gs.stop.notifies gs'.stop
  rechecks _ _ := False

variable {cfg : Config T} {inst : GameInstance T G} {timestep : Int}
  {gs gs' : GameServer T G Worker}

theorem GameStopStep.move (h : GameStopStep gs evs gs') :
    (loopWaiting cfg inst timestep).Move gs gs' () := by
  cases h with
  | stop hs hb hc =>
    cases hc with
    | stop hr => exact .clear hr (congrArg GameStopPc.owes hs) rfl rfl rfl
  | clearAll hs hb hc =>
    cases hc with
    | clearAll hn => exact .stop rfl (.inl (congrArg GameStopPc.owes hs).symm) rfl rfl
  | notifyAll hs hb hc =>
    cases hc with
    | notifyAll => exact .stop rfl (.inl (congrArg GameStopPc.owes hs).symm) rfl rfl
  | notify hs => exact .stop rfl (.inr (congrArg (GameStopPc.notifies · _) hs)) rfl rfl
  | clearGames hs hl | clearMessages hs | clearUpdates hs hl | clearCount hs =>
    exact .stop rfl (.inl (congrArg GameStopPc.owes hs).symm) rfl rfl

theorem GameStep.move (h : GameStep cfg inst timestep gs evs gs') :
    (loopWaiting cfg inst timestep).Move gs gs' () := by
  cases h with
  | transport h => exact .other h.isRunning.trans rfl rfl rfl
  | worker w h hfree =>
    rw [GameServer.foldl_handle_eq]
    exact .other h.isRunning.trans rfl rfl rfl
  | loop hidle h =>
    exact .self h.isRunning (congrArg GameStopPc.owes h.frame.2.2) h.waits h.enters
  | call hbusy h => exact .other h.isRunning.trans rfl rfl rfl
  | run h =>
    refine .other (fun hr => ?_) rfl rfl rfl
    generalize gs.base.control = control at h
    cases h with
    | run hn => rfl
  | stop h => exact h.move

theorem loopWaiting_lawful :
    (loopWaiting cfg inst timestep : Stoppable (GameServer T G Worker) _ _).Lawful where
  init := by
    rintro gs - ⟨t, rfl⟩
    rfl
  move h _ := GameStep.move h
  notifies := GameStopPc.owes_of_notifies _ _
  rechecks := False.elim

theorem control_invariant : (gameServer cfg inst timestep).Invariant
    fun gs : GameServer T G Worker => gs.base.control = gs.stop.control where
  init := by
    intro gs hinit
    obtain ⟨t, rfl⟩ := hinit
    rfl
  step {gs evs gs'} _ hi h := by
    cases h with
    | transport h => exact hi
    | worker w h hfree =>
      rw [GameServer.foldl_handle_eq]
      exact hi
    | loop hidle h =>
      obtain ⟨-, hc, hs⟩ := h.frame
      rw [hc, hs]
      exact hi
    | call hbusy h => exact hi
    | run h =>
      generalize hc : gs.base.control = control at h hi
      cases h with
      | run hr => exact hi
    | stop h =>
      cases h with
      | stop hs hb hc | clearAll hs hb hc | notifyAll hs hb hc =>
        cases hc
        rfl
      | notify hs | clearGames hs hl | clearMessages hs | clearUpdates hs hl | clearCount hs =>
        rw [hs] at hi
        exact hi

def gameWaiting (cfg : Config T) (inst : GameInstance T G) (timestep : Int) :
    Stoppable (GameServer T G Worker) (Worker ⊕ Unit) (List (Event T)) :=
  ((baseWaiting cfg).part (gameServer cfg inst timestep) GameServer.base).both
    (loopWaiting cfg inst timestep)

theorem gameWaiting_lawful :
    (gameWaiting cfg inst timestep : Stoppable (GameServer T G Worker) _ _).Lawful := by
  apply Stoppable.Lawful.both (baseWaiting_lawful.part ?_ ?_) loopWaiting_lawful rfl rfl
  · intro gs hinit
    obtain ⟨t, rfl⟩ := hinit
    exact ⟨t, rfl⟩
  · exact fun h => GameStep.base h

end Server

end WebGameServer
