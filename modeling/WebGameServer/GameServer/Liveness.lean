import WebGameServer.BaseServer.Liveness
import WebGameServer.GameServer.Progress

namespace WebGameServer
set_option autoImplicit true

section Actions

variable {T : Traits} {G Worker : Type} {cfg : Config T} {P : GameInstance T G → Prop}
  {timestep : Int} {gs gs' : GameServer T G Worker}

/-- A step of the call that the thread in `update_games` is in. -/
def LoopCalls (cfg : Config T) (gs gs' : GameServer T G Worker) : Prop :=
  gs.base.caller () ≠ .idle ∧ ∃ evs s pc,
    CallerStep cfg (.inr ()) gs.base.server (gs.base.caller ()) evs s pc ∧ gs' = gs.called evs s pc

/-- A step of the loop of `update_games`. -/
def LoopGoes (cfg : Config T) (P : GameInstance T G → Prop) (timestep : Int)
    (gs gs' : GameServer T G Worker) : Prop :=
  gs.base.caller () = .idle ∧ ∃ inst evs, P inst ∧ LoopStep cfg inst timestep gs evs gs'

/-- A step of the thread in `update_games`. -/
def LoopActs (cfg : Config T) (P : GameInstance T G → Prop) (timestep : Int)
    (gs gs' : GameServer T G Worker) : Prop :=
  LoopCalls cfg gs gs' ∨ LoopGoes cfg P timestep gs gs'

/-- What the handlers have put into the queue of connection updates, in order. -/
def GameServer.pushed (gs : GameServer T G Worker) : List (ConnectionUpdate T) :=
  gs.base.log.filterMap Event.connectionUpdate

structure Untouched (gs gs' : GameServer T G Worker) : Prop where
  loop : gs'.loop = gs.loop
  finishedGames : gs'.finishedGames = gs.finishedGames
  updates : ∃ us, gs'.connectionUpdates.1 = gs.connectionUpdates.1 ++ us ∧
    gs'.pushed = gs.pushed ++ us

theorem GameServer.pushed_append (hlog : gs'.base.log = gs.base.log ++ evs) :
    gs'.pushed = gs.pushed ++ evs.filterMap Event.connectionUpdate := by
  rw [pushed, hlog, List.filterMap_append, pushed]

theorem Untouched.of_unhandled (hevs : ∀ e ∈ evs, e.handled = false)
    (hlog : gs'.base.log = gs.base.log ++ evs) (hl : gs'.loop = gs.loop)
    (hf : gs'.finishedGames = gs.finishedGames)
    (hu : gs'.connectionUpdates = gs.connectionUpdates) : Untouched gs gs' := by
  refine ⟨hl, hf, [], ?_, ?_⟩
  · rw [hu, List.append_nil]
  · rw [GameServer.pushed_append hlog,
      filterMap_unhandled hevs Event.connectionUpdate_of_unhandled]

/-- The steps of a worker that call neither `player_connect` nor `player_disconnect`. -/
theorem WorkerStep.no_update {me : Thread} {s s' : Server T Thread}
    (h : WorkerStep cfg me s pc evs s' pc')
    (hc : ∀ hdl cid, pc ≠ .closing hdl cid) (he : ∀ hdl cid data, pc ≠ .entering hdl cid data) :
    evs.filterMap Event.connectionUpdate = [] := by
  cases h with
  | handleClose => exact (hc _ _ rfl).elim
  | handleOpen => exact (he _ _ _ rfl).elim
  | setupConnectionId =>
    apply List.filterMap_eq_nil_iff.2
    intro e hm
    obtain ⟨old, -, rfl⟩ := List.mem_map.1 hm
    rfl
  | _ => rfl

theorem LoopCalls.untouched (h : LoopCalls cfg gs gs') : Untouched gs gs' := by
  obtain ⟨-, evs, s, pc, h, rfl⟩ := h
  exact .of_unhandled h.unhandled rfl rfl rfl rfl

theorem LoopCalls.rank_lt (h : LoopCalls cfg gs gs') : gs'.rank < gs.rank := by
  obtain ⟨hb, evs, s, pc, hstep, rfl⟩ := h
  have hl : (gs.called evs s pc).loop = gs.loop := rfl
  apply rank_lt_of_call hl rfl
  simp only [GameServer.called, Function.update_self]
  exact hstep.distance_lt hb

theorem exists_loopActs (hgoes : gs.base.caller () = .idle →
      ∃ inst evs gs', P inst ∧ LoopStep cfg inst timestep gs evs gs') :
    Enabled (LoopActs cfg P timestep) gs := by
  by_cases hb : gs.base.caller () = .idle
  · obtain ⟨inst, evs, gs', hinst, h⟩ := hgoes hb
    exact ⟨gs', .inr ⟨hb, inst, evs, hinst, h⟩⟩
  · obtain ⟨evs, s, pc, h⟩ := exists_callerStep cfg (.inr ()) gs.base.server _ hb
    exact ⟨_, .inl ⟨hb, evs, s, pc, h, rfl⟩⟩

variable [DecidableEq Worker]

/-- A step of the worker, with the handlers that it calls. -/
def GameWorkerActs (cfg : Config T) (w : Worker) (gs gs' : GameServer T G Worker) : Prop :=
  ∃ evs s pc, WorkerStep cfg (.inl w) gs.base.server (gs.base.worker w) evs s pc ∧
    (gs.loop.holdsUpdates = true → evs.filterMap Event.connectionUpdate = []) ∧
    gs' = { evs.foldl GameServer.handle gs with
      base := { gs.base with
        server := s
        worker := Function.update gs.base.worker w pc
        log := gs.base.log ++ evs } }

theorem step_thread (h : (varyingServer cfg P timestep).step gs evs gs') :
    LoopGoes cfg P timestep gs gs' ∨
      Untouched gs gs' ∧ (LoopCalls cfg gs gs' ∨ gs'.base.caller () = gs.base.caller ()) := by
  obtain ⟨hn, inst, hp, hstep⟩ := h
  cases hstep with
  | transport h => exact .inr ⟨.of_unhandled h.unhandled rfl rfl rfl rfl, .inr rfl⟩
  | worker w h hfree =>
    rw [GameServer.foldl_handle_eq]
    exact .inr ⟨⟨rfl, rfl, _, rfl, GameServer.pushed_append rfl⟩, .inr rfl⟩
  | loop hidle h => exact .inl ⟨hidle, inst, evs, hp, h⟩
  | call hbusy h =>
    exact .inr ⟨.of_unhandled h.unhandled rfl rfl rfl rfl, .inl ⟨hbusy, _, _, _, h, rfl⟩⟩
  | run h => exact .inr ⟨.of_unhandled h.unhandled rfl rfl rfl rfl, .inr rfl⟩
  | stop h => cases h <;> exact (hn List.mem_cons_self).elim

theorem step_gameWorker (h : (varyingServer cfg P timestep).step gs evs gs') (w : Worker) :
    GameWorkerActs cfg w gs gs' ∨ gs'.base.worker w = gs.base.worker w := by
  obtain ⟨hn, inst, hp, hstep⟩ := h
  cases hstep with
  | worker w' h hfree =>
    by_cases hw : w = w'
    · subst hw
      exact .inl ⟨_, _, _, h, hfree, rfl⟩
    · exact .inr (Function.update_of_ne hw _ _)
  | loop hidle h => exact .inr (congrFun h.frame.1 w)
  | stop h => cases h <;> exact (hn List.mem_cons_self).elim
  | _ => exact .inr rfl

theorem step_running (h : (varyingServer cfg P timestep).step gs evs gs')
    (hr : gs.base.server.isRunning = true) : gs'.base.server.isRunning = true := by
  obtain ⟨hn, inst, -, hstep⟩ := h
  rcases hstep.project hn with ⟨-, he⟩ | hb
  · rw [he]
    exact hr
  · exact (hb.appends hn).1 hr

end Actions

section Executions

variable {T : Traits} {G Worker : Type} [DecidableEq Worker] {cfg : Config T}
  {P : GameInstance T G → Prop} {timestep : Int}

/-- The executions of the game server without `stop`. -/
abbrev GameExecution (cfg : Config T) (P : GameInstance T G → Prop) (timestep : Int)
    (Worker : Type) [DecidableEq Worker] : Type :=
  Execution (varyingServer cfg P timestep : LTS (GameServer T G Worker) (List (Event T)))

variable {x : GameExecution cfg P timestep Worker} {w : Worker}

def GameExecution.base (x : GameExecution cfg P timestep Worker) :
    ServerExecution cfg Worker Unit :=
  x.map GameServer.base (fun ⟨t, h⟩ => ⟨t, h ▸ rfl⟩) fun ⟨hn, _, _, hstep⟩ =>
    (hstep.project hn).elim (fun h => .inl h.2) fun h => .inr ⟨_, h, hn⟩

theorem fair_calls (hfair : x.Fair (LoopActs cfg P timestep)) : x.Fair (LoopCalls cfg) := by
  apply Execution.Fair.of_or hfair
  · intro gs evs gs' hr ⟨_, hb, _⟩ h hn
    rcases step_thread h with hgoes | ⟨-, hcalls | he⟩
    · exact (hb hgoes.1).elim
    · exact (hn hcalls).elim
    · rw [← he] at hb
      obtain ⟨evs, s, pc, hstep⟩ := exists_callerStep cfg (.inr ()) gs'.base.server _ hb
      exact ⟨_, hb, _, _, _, hstep, rfl⟩
  · intro gs gs' hr ⟨_, hb, _⟩ hgoes
    exact hb hgoes.1

theorem fair_caller (hfair : x.Fair (LoopActs cfg P timestep)) (c : Unit) :
    x.base.Fair (CallerActs cfg c) := by
  apply (fair_calls hfair).map (f := GameServer.base) (fun n => rfl)
  · rintro gs gs' ⟨hb, evs, s, pc, hstep, rfl⟩
    exact ⟨hb, evs, s, pc, hstep, rfl⟩
  · apply Execution.LeadsTo.of_imp
    rintro gs hr ⟨σ', hb, evs, s, pc, hstep, -⟩
    exact ⟨_, hb, evs, s, pc, hstep, rfl⟩

theorem updates_released (hP : ∃ inst, P inst) (hfair : x.Fair (LoopActs cfg P timestep)) :
    x.Often fun gs => gs.loop.holdsUpdates = false := by
  have acts {gs gs' : GameServer T G Worker} (hl : gs.loop.holdsUpdates = true)
      (h : LoopActs cfg P timestep gs gs') :
      gs'.loop.holdsUpdates = false ∨ gs'.loop.holdsUpdates = true ∧ gs'.rank < gs.rank := by
    rcases h with hcalls | ⟨-, inst, evs, -, hstep⟩
    · rw [hcalls.untouched.loop]
      exact .inr ⟨hl, hcalls.rank_lt⟩
    · cases hstep with
      | pass h₀ | wake h₀ | eraseFinished h₀ =>
        rw [h₀] at hl
        cases hl
      | _ => exact .inl rfl
  have step {gs evs} {gs' : GameServer T G Worker} (hl : gs.loop.holdsUpdates = true)
      (h : (varyingServer cfg P timestep).step gs evs gs') :
      gs'.loop.holdsUpdates = false ∨ gs'.loop.holdsUpdates = true ∧ gs'.rank ≤ gs.rank := by
    rcases step_thread h with hgoes | ⟨hu, hcalls | he⟩
    · exact (acts hl (.inr hgoes)).imp_right fun ⟨hl', hlt⟩ => ⟨hl', hlt.le⟩
    · exact (acts hl (.inl hcalls)).imp_right fun ⟨hl', hlt⟩ => ⟨hl', hlt.le⟩
    · rw [hu.loop, rank_eq hu.loop hu.finishedGames he]
      exact .inr ⟨hl, le_refl _⟩
  intro n
  cases hl : (x.state n).loop.holdsUpdates with
  | false => exact ⟨n, Nat.le_refl n, hl⟩
  | true =>
    apply Execution.leadsTo_of_rank GameServer.rank hfair (fun hr hl hq h => step hl h)
      (fun hr hl hq h => (acts hl h).imp_right And.right) _ n hl
    apply Execution.LeadsTo.of_imp
    intro gs hr hl
    obtain ⟨inst, hp⟩ := hP
    right
    apply exists_loopActs
    intro hb
    cases hl₀ : gs.loop with
    | relocking t => exact ⟨inst, _, _, hp, .relock hl₀⟩
    | _ =>
      rw [hl₀] at hl
      cases hl

theorem fair_worker (hP : ∃ inst, P inst) (hloop : x.Fair (LoopActs cfg P timestep))
    (hfair : x.Fair (GameWorkerActs cfg w)) : x.base.Fair (WorkerActs cfg w) := by
  apply hfair.map (f := GameServer.base) (fun n => rfl)
  · rintro gs gs' ⟨evs, s, pc, hstep, hfree, rfl⟩
    exact ⟨evs, s, pc, hstep, rfl⟩
  intro n hen
  obtain ⟨σ', evs, s, pc, hstep, -⟩ := hen
  have waits (pc₀ : WorkerPc T) (hpc : (x.state n).base.worker w = pc₀)
      (hsteps : ∀ s : Server T (Worker ⊕ Unit), ∃ evs s' pc,
        WorkerStep cfg (.inl w) s pc₀ evs s' pc) :
      ∃ m, n ≤ m ∧ Enabled (GameWorkerActs cfg w) (x.state m) := by
    have hunless : (varyingServer cfg P timestep).Unless
        (fun gs : GameServer T G Worker => gs.base.worker w = pc₀)
        (Enabled (GameWorkerActs cfg w)) := by
      intro gs evs gs' hr hpc hnot h
      rcases step_gameWorker h w with hacts | he
      · exact (hnot ⟨_, hacts⟩).elim
      · exact .inl (he.trans hpc)
    obtain ⟨m, hm, hq | ⟨hpc', hfree⟩⟩ :=
      (updates_released hP hloop).leadsTo.while hunless n hpc
    · exact ⟨m, hm, hq⟩
    · obtain ⟨evs, s, pc, h⟩ := hsteps (x.state m).base.server
      refine ⟨m, hm, _, evs, s, pc, hpc' ▸ h, fun hh => ?_, rfl⟩
      rw [hfree] at hh
      cases hh
  by_cases hc : ∃ hdl cid, (x.state n).base.worker w = .closing hdl cid
  · obtain ⟨hdl, cid, hc⟩ := hc
    exact waits _ hc fun s => ⟨_, _, _, .handleClose⟩
  by_cases he : ∃ hdl cid data, (x.state n).base.worker w = .entering hdl cid data
  · obtain ⟨hdl, cid, data, he⟩ := he
    exact waits _ he fun s => ⟨_, _, _, .handleOpen⟩
  have hnone := hstep.no_update (fun hdl cid h => hc ⟨hdl, cid, h⟩)
    fun hdl cid data h => he ⟨hdl, cid, data, h⟩
  exact ⟨n, Nat.le_refl n, _, evs, s, pc, hstep, fun _ => hnone, rfl⟩

theorem base_lock_released (hP : ∃ inst, P inst) (hloop : x.Fair (LoopActs cfg P timestep))
    (hworkers : ∀ w, x.Fair (GameWorkerActs cfg w)) :
    x.base.Often fun σ => σ.server.sessionLock = none :=
  lock_released (fun w => fair_worker hP hloop (hworkers w)) (fair_caller hloop)

theorem loop_leadsTo {R Q : GameServer T G Worker → Prop} (hP : ∃ inst, P inst)
    (hloop : x.Fair (LoopActs cfg P timestep)) (hworkers : ∀ w, x.Fair (GameWorkerActs cfg w))
    (hback : ∀ {gs}, R gs → gs.loop ≠ .returned)
    (hstay : ∀ {gs gs'}, R gs → Untouched gs gs' → R gs')
    (hgo : ∀ {inst gs evs gs'}, (varyingServer cfg P timestep).Reachable gs →
      gs.base.server.isRunning = true → R gs → ¬ Q gs → P inst →
      LoopStep cfg inst timestep gs evs gs' → Q gs' ∨ R gs' ∧ gs'.rank < gs.rank) :
    x.LeadsTo (fun gs => gs.base.server.isRunning = true ∧ R gs) Q := by
  have step {gs evs gs'} (hr : (varyingServer cfg P timestep).Reachable gs)
      (hp : gs.base.server.isRunning = true ∧ R gs) (hq : ¬ Q gs)
      (h : (varyingServer cfg P timestep).step gs evs gs') :
      Q gs' ∨ (gs'.base.server.isRunning = true ∧ R gs') ∧ gs'.rank ≤ gs.rank := by
    have hrun := step_running h hp.1
    rcases step_thread h with ⟨-, inst, evs, hinst, hstep⟩ | ⟨hu, hcalls | he⟩
    · exact (hgo hr hp.1 hp.2 hq hinst hstep).imp_right fun ⟨hp', hlt⟩ => ⟨⟨hrun, hp'⟩, hlt.le⟩
    · exact .inr ⟨⟨hrun, hstay hp.2 hu⟩, hcalls.rank_lt.le⟩
    · exact .inr ⟨⟨hrun, hstay hp.2 hu⟩, (rank_eq hu.loop hu.finishedGames he).le⟩
  have hfree : x.Often fun gs => gs.base.server.sessionLock = none :=
    base_lock_released hP hloop hworkers
  apply Execution.leadsTo_of_rank_often GameServer.rank hloop hfree step
  · intro gs gs' hr hp hq h
    rcases h with hcalls | ⟨-, inst, evs, hinst, hstep⟩
    · exact .inr hcalls.rank_lt
    · exact (hgo hr hp.1 hp.2 hq hinst hstep).imp_right And.right
  · intro gs hr hp hq hn
    obtain ⟨inst, hinst⟩ := hP
    apply exists_loopActs
    intro hb
    obtain ⟨evs, gs', h⟩ := exists_loopStep cfg inst timestep
      (lifeCycle_invariant.reachable hr) (hback hp.2) hn
    exact ⟨inst, evs, gs', hinst, h⟩

end Executions

end WebGameServer
