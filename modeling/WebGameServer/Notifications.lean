import Mathlib.Data.Fintype.Sum
import WebGameServer.BaseServer.Waiting
import WebGameServer.GameServer.Waiting
import WebGameServer.Library.Notification
import WebGameServer.MatchmakingServer.Agreement
import WebGameServer.MatchmakingServer.Waiting

namespace WebGameServer
set_option autoImplicit true

section BaseServer

variable {T : Traits} {Transport Worker Caller : Type} [DecidableEq Worker]
  [DecidableEq Caller]

/-- The steps of the server by the thread that takes them. The producers of `m_actions` are the
threads of the transport and the callers. -/
inductive StepBy (cfg : Config T) : Option (Transport ⊕ Caller) → System T Worker Caller →
    List (Event T) → System T Worker Caller → Prop where
  | transport (t : Transport) (h : TransportStep σ.server evs s) :
      StepBy cfg (some (.inl t)) σ evs { σ with server := s, log := σ.log ++ evs }
  | caller (c : Caller) (h : CallerStep cfg (.inr c) σ.server (σ.caller c) evs s pc) :
      StepBy cfg (some (.inr c)) σ evs
        { σ with server := s, caller := Function.update σ.caller c pc, log := σ.log ++ evs }
  | worker (w : Worker) (h : WorkerStep cfg (.inl w) σ.server (σ.worker w) evs s pc) :
      StepBy cfg none σ evs
        { σ with server := s, worker := Function.update σ.worker w pc, log := σ.log ++ evs }
  | control (h : ControlStep σ.server σ.control evs s pc) :
      StepBy cfg none σ evs { σ with server := s, control := pc, log := σ.log ++ evs }

variable {cfg : Config T} {σ σ' : System T Worker Caller}

theorem step_iff_stepBy [Nonempty Transport] :
    Step cfg σ evs σ' ↔ ∃ p : Option (Transport ⊕ Caller), StepBy cfg p σ evs σ' := by
  constructor
  · intro h
    cases h with
    | transport h => exact ⟨_, .transport (Classical.arbitrary Transport) h⟩
    | worker w h => exact ⟨_, .worker w h⟩
    | caller c h => exact ⟨_, .caller c h⟩
    | control h => exact ⟨_, .control h⟩
  · rintro ⟨p, h⟩
    cases h with
    | transport t h => exact .transport h
    | worker w h => exact .worker w h
    | caller c h => exact .caller c h
    | control h => exact .control h

/-- The workers and the producers of `m_actions` with `m_action_cond`. A producer notifies after
a step that has pushed an action. -/
def actionSignalling (Transport : Type) (cfg : Config T) :
    Signalling (System T Worker Caller) Worker (Transport ⊕ Caller) (List (Event T)) where
  init := (baseServer cfg).init
  step := StepBy cfg
  waits σ w := (σ.worker w).waits
  work σ := σ.server.actions ≠ []
  idle σ := σ.server.isRunning = true ∧ σ.server.actions = []
  signals σ _ σ' := σ.server.actions.length < σ'.server.actions.length

theorem TransportStep.signals {Thread : Type} {s s' : Server T Thread}
    (h : TransportStep s evs s') : s.actions.length < s'.actions.length ∨ s' = s := by
  cases h with
  | onOpen hdl hr | onMessage hdl msg | onClose hdl =>
    exact .inl (by simp only [Server.push, List.length_append, List.length_singleton]; omega)
  | onOpenStopped hdl hr => exact .inr rfl

theorem CallerStep.signals {Thread : Type} {me : Thread} {s s' : Server T Thread}
    (h : CallerStep cfg me s pc evs s' pc') :
    s.actions.length < s'.actions.length ∨ s'.actions = s.actions := by
  cases h with
  | closePlayer | pushMessage =>
    exact .inl (by simp only [Server.push, List.length_append, List.length_singleton]; omega)
  | completeLocked c sid result hn hl | completeSession c sid result hn hl =>
    exact .inr (s.updateSessionLocks_actions)
  | _ => exact .inr rfl

theorem ControlStep.actions {Thread : Type} {s s' : Server T Thread}
    (h : ControlStep s pc evs s' pc') : s'.actions = s.actions ∨ s'.actions = [] := by
  cases h with
  | clearAll hn => exact .inr rfl
  | _ => exact .inl rfl

theorem WorkerStep.waits_empty {Thread : Type} {me : Thread} {s s' : Server T Thread}
    (h : WorkerStep cfg me s pc evs s' pc') (hw : pc'.waits = true) : s'.actions = [] := by
  cases h with
  | wait ha => exact ha
  | _ => cases hw

theorem StepBy.worker_cases {p : Option (Transport ⊕ Caller)} (h : StepBy cfg p σ evs σ')
    (w : Worker) : σ'.worker w = σ.worker w ∨
      WorkerStep cfg (.inl w) σ.server (σ.worker w) evs σ'.server (σ'.worker w) := by
  cases h with
  | worker u h =>
    by_cases hu : w = u
    · subst hu
      simp only [Function.update_self]
      exact .inr h
    · exact .inl (Function.update_of_ne hu ..)
  | transport t h | caller c h | control h => exact .inl rfl

theorem StepBy.waits {p : Option (Transport ⊕ Caller)} {w : Worker}
    (h : StepBy cfg p σ evs σ') (hb : (σ.worker w).waits = false)
    (hw : (σ'.worker w).waits = true) : σ'.server.actions = [] := by
  rcases h.worker_cases w with he | hs
  · rw [he, hb] at hw
    cases hw
  · exact hs.waits_empty hw

theorem StepBy.work {p : Option (Transport ⊕ Caller)} (h : StepBy cfg p σ evs σ')
    (hw : σ'.server.actions ≠ []) :
    σ.server.actions ≠ [] ∨
      ∃ q, p = some q ∧ σ.server.actions.length < σ'.server.actions.length := by
  cases h with
  | transport t h =>
    rcases h.signals with hl | rfl
    · exact .inr ⟨_, rfl, hl⟩
    · exact .inl hw
  | caller c h =>
    rcases h.signals with hl | he
    · exact .inr ⟨_, rfl, hl⟩
    · exact .inl (he ▸ hw)
  | worker w h =>
    obtain ⟨a, ha⟩ := List.exists_mem_of_ne_nil _ hw
    exact .inl (List.ne_nil_of_mem (h.mem_actions ha))
  | control h =>
    rcases h.actions with he | he
    · exact .inl (he ▸ hw)
    · exact (hw he).elim

theorem actionSignalling_lawful :
    (actionSignalling Transport cfg : Signalling (System T Worker Caller) _ _ _).Lawful where
  init := by
    intro σ hinit hw
    obtain ⟨t, rfl⟩ := hinit
    exact hw rfl
  waits h hb hw ha := ha (StepBy.waits h hb hw)
  work h hw := by
    rcases StepBy.work h hw with hw' | ⟨q, hp, hl⟩
    · exact .inl hw'
    · exact .inr (.inl ⟨q, hp, decide_eq_true hl⟩)
  idle h hw := hw h.2

theorem WorkerStep.pc_ne {Thread : Type} {me : Thread} {s s' : Server T Thread}
    (h : WorkerStep cfg me s pc evs s' pc') : pc' ≠ pc := by
  intro he
  cases h <;> cases he

theorem WorkerStep.remains {Thread : Type} {me : Thread} {s s' : Server T Thread}
    (h : WorkerStep cfg me s pc evs s' pc') (hr : s'.isRunning = true) : pc' ≠ .returned := by
  intro he
  have hrun := h.isRunning.symm.trans hr
  cases h with
  | exit hn | wakeStopped hn => cases hrun.symm.trans hn
  | _ => cases he

theorem StepBy.remains {p : Option (Transport ⊕ Caller)} {w : Worker}
    (h : StepBy cfg p σ evs σ') (hr : σ'.server.isRunning = true)
    (hw : σ.worker w ≠ .returned) : σ'.worker w ≠ .returned := by
  rcases h.worker_cases w with he | hs
  · rw [he]
    exact hw
  · exact hs.remains hr

variable [DecidableEq Transport]

theorem actionSignalling_reachable [Nonempty Transport]
    {σ : Signalled (System T Worker Caller) Worker (Transport ⊕ Caller)}
    (h : (actionSignalling Transport cfg).signalled.Reachable σ) :
    (baseServer cfg).Reachable σ.state :=
  Signalling.reachable_state id (fun hs => step_iff_stepBy.2 ⟨_, hs⟩) h

theorem worker_remains {σ : Signalled (System T Worker Caller) Worker (Transport ⊕ Caller)}
    (h : ((actionSignalling Transport cfg).signalled.restrict
      fun _ _ σ' => σ'.state.server.isRunning = true).Reachable σ) (w : Worker) :
    σ.state.worker w ≠ .returned := by
  apply Signalling.stays_while (fun s : System T Worker Caller => s.server.isRunning = true)
    (fun s => s.worker w ≠ .returned) h ?_ StepBy.remains
  intro s hinit hw
  obtain ⟨t, rfl⟩ := hinit
  cases hw

theorem actions_attended [Nonempty Worker]
    {σ : Signalled (System T Worker Caller) Worker (Transport ⊕ Caller)}
    (h : ((actionSignalling Transport cfg).signalled.restrict
      fun _ _ σ' => σ'.state.server.isRunning = true).Reachable σ)
    (ha : σ.state.server.actions ≠ []) :
    (∃ w, σ.asleep w = false ∧ σ.state.worker w ≠ .returned) ∨ ∃ p, σ.owed p = true := by
  rcases (Signalling.attended_invariant actionSignalling_lawful).reachable h.of_restrict ha with
    ⟨w, hw⟩ | hp
  · exact .inl ⟨w, hw, worker_remains h w⟩
  · exact .inr hp

end BaseServer

section GameServer

variable {T : Traits} {G Worker : Type}

/-- `player_connect` is called. -/
def Event.connects : Event T → Bool
  | .handleOpen _ _ => true
  | _ => false

/-- A connect is among the updates that the loop has not taken yet. -/
def GameServer.HasConnect (gs : GameServer T G Worker) : Prop :=
  ∃ cid data, .connection cid data ∈ gs.connectionUpdates.1

theorem GameServer.HasConnect.of_handled {gs : GameServer T G Worker}
    {evs : List (Event T)} {s : System T Worker Unit}
    (h : GameServer.HasConnect { evs.foldl GameServer.handle gs with base := s }) :
    gs.HasConnect ∨ evs.any Event.connects = true := by
  obtain ⟨cid, data, hm⟩ := h
  rw [GameServer.foldl_handle_eq] at hm
  rcases List.mem_append.1 hm with hm | hm
  · exact .inl ⟨cid, data, hm⟩
  · obtain ⟨e, he, hu⟩ := List.mem_filterMap.1 hm
    refine .inr (List.any_eq_true.2 ⟨e, he, ?_⟩)
    cases e with
    | handleOpen id d => rfl
    | _ => cases hu

theorem LoopStep.waits_empty {cfg : Config T} {inst : GameInstance T G} {timestep : Int}
    {gs gs' : GameServer T G Worker} (h : LoopStep cfg inst timestep gs evs gs')
    (hw : gs'.loop.waits = true) : gs'.connectionUpdates.1 = [] := by
  cases h with
  | wait hl hu => exact hu
  | eraseFinished hl => cases (congrArg GamePc.waits hl).symm.trans hw
  | _ => cases hw

variable [DecidableEq Worker]

/-- The steps of the game server by the thread that takes them. The producers of
`m_connection_updates` are the workers, which call the handlers. -/
inductive GameStepBy (cfg : Config T) (inst : GameInstance T G) (timestep : Int) :
    Option Worker → GameServer T G Worker → List (Event T) → GameServer T G Worker → Prop where
  | worker (w : Worker)
      (h : WorkerStep cfg (.inl w) gs.base.server (gs.base.worker w) evs s pc)
      (hfree : gs.loop.holdsUpdates = true → evs.filterMap Event.connectionUpdate = []) :
      GameStepBy cfg inst timestep (some w) gs evs
        { evs.foldl GameServer.handle gs with
          base := { gs.base with
            server := s
            worker := Function.update gs.base.worker w pc
            log := gs.base.log ++ evs } }
  -- The thread is another one, so that no worker moves.
  | other (h : GameStep cfg inst timestep gs evs gs')
      (hw : gs'.base.worker = gs.base.worker) : GameStepBy cfg inst timestep none gs evs gs'

variable {cfg : Config T} {inst : GameInstance T G} {timestep : Int}
  {gs gs' : GameServer T G Worker}

theorem gameStep_iff_gameStepBy :
    GameStep cfg inst timestep gs evs gs' ↔ ∃ p, GameStepBy cfg inst timestep p gs evs gs' := by
  constructor
  · intro h
    cases h with
    | worker w h hfree => exact ⟨_, .worker w h hfree⟩
    | transport h => exact ⟨_, .other (.transport h) rfl⟩
    | loop hidle h => exact ⟨_, .other (.loop hidle h) h.frame.1⟩
    | call hbusy h => exact ⟨_, .other (.call hbusy h) rfl⟩
    | run h => exact ⟨_, .other (.run h) rfl⟩
    | stop h =>
      refine ⟨_, .other (.stop h) ?_⟩
      cases h <;> rfl
  · rintro ⟨p, h⟩
    cases h with
    | worker w h hfree => exact .worker w h hfree
    | other h hw => exact h

/-- The loop and the workers with `m_game_condition`. Of the handlers only `player_connect`
notifies. -/
def gameSignalling (cfg : Config T) (inst : GameInstance T G) (timestep : Int) :
    Signalling (GameServer T G Worker) Unit Worker (List (Event T)) where
  init := (gameServer cfg inst timestep).init
  step := GameStepBy cfg inst timestep
  waits gs _ := gs.loop.waits
  work := GameServer.HasConnect
  idle _ := False
  signals _ evs _ := evs.any Event.connects

/-- A thread that is no worker leaves the updates as they are, or the loop is not waiting. -/
theorem GameStep.untouched (h : GameStep cfg inst timestep gs evs gs')
    (hw : gs'.base.worker = gs.base.worker) (hn : gs'.HasConnect) :
    gs.HasConnect ∨ gs'.loop.waits = false := by
  cases h with
  | worker w h hfree =>
    have hpc := congrFun hw w
    simp only [Function.update_self] at hpc
    exact (h.pc_ne hpc).elim
  | transport h | call hbusy h | run h => exact .inl hn
  | loop hidle h =>
    cases hl : gs'.loop.waits with
    | false => exact .inr rfl
    | true =>
      obtain ⟨cid, data, hm⟩ := hn
      rw [h.waits_empty hl] at hm
      cases hm
  | stop h =>
    cases h with
    | clearUpdates hs hl =>
      obtain ⟨cid, data, hm⟩ := hn
      cases hm
    | _ => exact .inl hn

theorem GameStep.begins (h : GameStep cfg inst timestep gs evs gs')
    (hb : gs.loop.waits = false) (hw : gs'.loop.waits = true) :
    gs'.connectionUpdates.1 = [] := by
  cases h with
  | loop hidle h => exact h.waits_empty hw
  | worker w h hfree =>
    rw [GameServer.foldl_handle_eq] at hw
    cases hb.symm.trans hw
  | transport h | call hbusy h | run h => cases hb.symm.trans hw
  | stop h => cases h <;> cases hb.symm.trans hw

theorem gameSignalling_lawful :
    (gameSignalling cfg inst timestep : Signalling (GameServer T G Worker) _ _ _).Lawful where
  init := by
    rintro gs ⟨t, rfl⟩ ⟨cid, data, hm⟩
    cases hm
  waits := by
    rintro p gs evs gs' t h hb hw ⟨cid, data, hm⟩
    rw [(gameStep_iff_gameStepBy.2 ⟨p, h⟩).begins hb hw] at hm
    cases hm
  work := by
    intro p gs evs gs' h hn
    cases h with
    | worker w h hfree =>
      rcases hn.of_handled with hn | hc
      · exact .inl hn
      · exact .inr (.inl ⟨w, rfl, hc⟩)
    | other h hw =>
      rcases h.untouched hw hn with hn | hl
      · exact .inl hn
      · exact .inr (.inr ⟨(), hl⟩)
  idle := False.elim

theorem gameSignalling_reachable {σ : Signalled (GameServer T G Worker) Unit Worker}
    (h : (gameSignalling cfg inst timestep).signalled.Reachable σ) :
    (gameServer cfg inst timestep).Reachable σ.state :=
  Signalling.reachable_state id (fun hs => gameStep_iff_gameStepBy.2 ⟨_, hs⟩) h

theorem GameStep.remains (h : GameStep cfg inst timestep gs evs gs')
    (hr : gs'.base.server.isRunning = true) (hl : gs.loop ≠ .returned) :
    gs'.loop ≠ .returned := by
  cases h with
  | loop hidle h => exact h.not_returned (h.isRunning.symm.trans hr) hl
  | worker w h hfree =>
    rw [GameServer.foldl_handle_eq]
    exact hl
  | transport h | call hbusy h | run h => exact hl
  | stop h => cases h <;> exact hl

theorem loop_remains {σ : Signalled (GameServer T G Worker) Unit Worker}
    (h : ((gameSignalling cfg inst timestep).signalled.restrict
      fun _ _ σ' => σ'.state.base.server.isRunning = true).Reachable σ) :
    σ.state.loop ≠ .returned := by
  apply Signalling.stays_while (fun gs : GameServer T G Worker => gs.base.server.isRunning = true)
    (fun gs => gs.loop ≠ .returned) h ?_ ?_
  · intro gs hinit hl
    obtain ⟨t, rfl⟩ := hinit
    cases hl
  · exact fun hs => (gameStep_iff_gameStepBy.2 ⟨_, hs⟩).remains

theorem connects_attended {σ : Signalled (GameServer T G Worker) Unit Worker}
    (h : ((gameSignalling cfg inst timestep).signalled.restrict
      fun _ _ σ' => σ'.state.base.server.isRunning = true).Reachable σ)
    (hn : σ.state.HasConnect) :
    (σ.asleep () = false ∧ σ.state.loop ≠ .returned) ∨ ∃ w, σ.owed w = true := by
  rcases (Signalling.attended_invariant gameSignalling_lawful).reachable h.of_restrict hn with
    ⟨t, ht⟩ | hp
  · exact .inl ⟨ht, loop_remains h⟩
  · exact .inr hp

end GameServer

section MatchmakingServer

variable {T : Traits} {D Worker : Type}

theorem MatchStep.waits_empty {cfg : Config T} {mm : Matchmaker T D} {timestep : Int}
    {ms ms' : MatchmakingServer T D Worker} (h : MatchStep cfg mm timestep ms evs ms')
    (hw : ms'.loop.waits = true) : ms'.connectionUpdates.1 = [] := by
  cases h with
  | wait hl hu => exact hu
  | _ => cases hw

variable [DecidableEq Worker]

/-- The steps of the matchmaking server by the thread that takes them. -/
inductive MatchStepBy (cfg : Config T) (mm : Matchmaker T D) (timestep : Int) :
    Option Worker → MatchmakingServer T D Worker → List (Event T) →
    MatchmakingServer T D Worker → Prop where
  | worker (w : Worker)
      (h : WorkerStep cfg (.inl w) ms.base.server (ms.base.worker w) evs s pc)
      (hfree : ms.loop.holdsUpdates = true → evs.filterMap Event.matchUpdate = []) :
      MatchStepBy cfg mm timestep (some w) ms evs
        { ms.handleAll evs with
          base := { ms.base with
            server := s
            worker := Function.update ms.base.worker w pc
            log := ms.base.log ++ evs } }
  -- The thread is another one, so that no worker moves.
  | other (h : MatchmakingStep cfg mm timestep ms evs ms')
      (hw : ms'.base.worker = ms.base.worker) : MatchStepBy cfg mm timestep none ms evs ms'

variable {cfg : Config T} {mm : Matchmaker T D} {timestep : Int}
  {ms ms' : MatchmakingServer T D Worker}

theorem matchmakingStep_iff_matchStepBy :
    MatchmakingStep cfg mm timestep ms evs ms' ↔
      ∃ p, MatchStepBy cfg mm timestep p ms evs ms' := by
  constructor
  · intro h
    cases h with
    | worker w h hfree => exact ⟨_, .worker w h hfree⟩
    | transport h => exact ⟨_, .other (.transport h) rfl⟩
    | loop hidle h => exact ⟨_, .other (.loop hidle h) h.frame.1⟩
    | call hbusy h => exact ⟨_, .other (.call hbusy h) rfl⟩
    | run h => exact ⟨_, .other (.run h) rfl⟩
    | stop h =>
      refine ⟨_, .other (.stop h) ?_⟩
      cases h <;> rfl
  · rintro ⟨p, h⟩
    cases h with
    | worker w h hfree => exact .worker w h hfree
    | other h hw => exact h

/-- The loop and the workers with `m_match_condition`. Every handler notifies. -/
def matchSignalling (cfg : Config T) (mm : Matchmaker T D) (timestep : Int) :
    Signalling (MatchmakingServer T D Worker) Unit Worker (List (Event T)) where
  init := (matchmakingServer cfg mm timestep).init
  step := MatchStepBy cfg mm timestep
  waits ms _ := ms.loop.waits
  work ms := ms.connectionUpdates.1 ≠ []
  idle _ := False
  signals _ evs _ := evs.any fun e => e.matchUpdate.isSome

omit [DecidableEq Worker] in
theorem MatchmakingServer.handled_signals {evs : List (Event T)}
    (h : (ms.handleAll evs).connectionUpdates.1 ≠ []) :
    ms.connectionUpdates.1 ≠ [] ∨ evs.any (fun e => e.matchUpdate.isSome) = true := by
  obtain ⟨u, hm⟩ := List.exists_mem_of_ne_nil _ h
  rcases List.mem_append.1 hm with hm | hm
  · exact .inl (List.ne_nil_of_mem hm)
  · obtain ⟨e, he, hu⟩ := List.mem_filterMap.1 hm
    exact .inr (List.any_eq_true.2 ⟨e, he, Option.isSome_of_mem hu⟩)

theorem MatchmakingStep.untouched (h : MatchmakingStep cfg mm timestep ms evs ms')
    (hw : ms'.base.worker = ms.base.worker) (hn : ms'.connectionUpdates.1 ≠ []) :
    ms.connectionUpdates.1 ≠ [] ∨ ms'.loop.waits = false := by
  cases h with
  | worker w h hfree =>
    have hpc := congrFun hw w
    simp only [Function.update_self] at hpc
    exact (h.pc_ne hpc).elim
  | transport h | call hbusy h | run h => exact .inl hn
  | loop hidle h =>
    cases hl : ms'.loop.waits with
    | false => exact .inr rfl
    | true => exact (hn (h.waits_empty hl)).elim
  | stop h =>
    cases h with
    | clearUpdates hs hl => exact (hn rfl).elim
    | _ => exact .inl hn

theorem MatchmakingStep.begins (h : MatchmakingStep cfg mm timestep ms evs ms')
    (hb : ms.loop.waits = false) (hw : ms'.loop.waits = true) :
    ms'.connectionUpdates.1 = [] := by
  cases h with
  | loop hidle h => exact h.waits_empty hw
  | worker w h hfree | transport h | call hbusy h | run h => cases hb.symm.trans hw
  | stop h => cases h <;> cases hb.symm.trans hw

theorem matchSignalling_lawful :
    (matchSignalling cfg mm timestep :
      Signalling (MatchmakingServer T D Worker) _ _ _).Lawful where
  init := by
    intro ms hinit hn
    obtain ⟨t, rfl⟩ := hinit
    exact hn rfl
  waits h hb hw hn := hn ((matchmakingStep_iff_matchStepBy.2 ⟨_, h⟩).begins hb hw)
  work := by
    intro p ms evs ms' h hn
    cases h with
    | worker w h hfree =>
      rcases MatchmakingServer.handled_signals hn with hn | hc
      · exact .inl hn
      · exact .inr (.inl ⟨w, rfl, hc⟩)
    | other h hw =>
      rcases h.untouched hw hn with hn | hl
      · exact .inl hn
      · exact .inr (.inr ⟨(), hl⟩)
  idle := False.elim

theorem matchSignalling_reachable {σ : Signalled (MatchmakingServer T D Worker) Unit Worker}
    (h : (matchSignalling cfg mm timestep).signalled.Reachable σ) :
    (matchmakingServer cfg mm timestep).Reachable σ.state :=
  Signalling.reachable_state id (fun hs => matchmakingStep_iff_matchStepBy.2 ⟨_, hs⟩) h

theorem MatchmakingStep.remains (h : MatchmakingStep cfg mm timestep ms evs ms')
    (hr : ms'.base.server.isRunning = true) (hl : ms.loop ≠ .returned) :
    ms'.loop ≠ .returned := by
  cases h with
  | loop hidle h =>
    intro he
    have hrun := h.isRunning.symm.trans hr
    cases h with
    | exit hl' hn | wakeStopped hl' hn => cases hrun.symm.trans hn
    | _ => cases he
  | worker w h hfree | transport h | call hbusy h | run h => exact hl
  | stop h => cases h <;> exact hl

theorem matchLoop_remains {σ : Signalled (MatchmakingServer T D Worker) Unit Worker}
    (h : ((matchSignalling cfg mm timestep).signalled.restrict
      fun _ _ σ' => σ'.state.base.server.isRunning = true).Reachable σ) :
    σ.state.loop ≠ .returned := by
  apply Signalling.stays_while
    (fun ms : MatchmakingServer T D Worker => ms.base.server.isRunning = true)
    (fun ms => ms.loop ≠ .returned) h ?_ ?_
  · intro ms hinit hl
    obtain ⟨t, rfl⟩ := hinit
    cases hl
  · exact fun hs => (matchmakingStep_iff_matchStepBy.2 ⟨_, hs⟩).remains

theorem updates_attended {σ : Signalled (MatchmakingServer T D Worker) Unit Worker}
    (h : ((matchSignalling cfg mm timestep).signalled.restrict
      fun _ _ σ' => σ'.state.base.server.isRunning = true).Reachable σ)
    (hn : σ.state.connectionUpdates.1 ≠ []) :
    (σ.asleep () = false ∧ σ.state.loop ≠ .returned) ∨ ∃ w, σ.owed w = true := by
  rcases (Signalling.attended_invariant matchSignalling_lawful).reachable h.of_restrict hn with
    ⟨t, ht⟩ | hp
  · exact .inl ⟨ht, matchLoop_remains h⟩
  · exact .inr hp

end MatchmakingServer

/-- While `m_is_running` stays true, an action, a connect of a game server or an update of a
matchmaking server is left only while a thread that has to take it is in its loop and not among
the waiters, or a producer that has pushed has its notification still to issue. -/
theorem no_work_forgotten {T : Traits} {G D Worker : Type} (Transport Caller : Type)
    [DecidableEq Transport] [DecidableEq Worker] [DecidableEq Caller] [Nonempty Worker]
    (cfg : Config T) (inst : GameInstance T G) (mm : Matchmaker T D) (timestep : Int) :
    (∀ σ : Signalled (System T Worker Caller) Worker (Transport ⊕ Caller),
      ((actionSignalling Transport cfg).signalled.restrict
        fun _ _ σ' => σ'.state.server.isRunning = true).Reachable σ →
      σ.state.server.actions ≠ [] →
      (∃ w, σ.asleep w = false ∧ σ.state.worker w ≠ .returned) ∨ ∃ p, σ.owed p = true) ∧
    (∀ σ : Signalled (GameServer T G Worker) Unit Worker,
      ((gameSignalling cfg inst timestep).signalled.restrict
        fun _ _ σ' => σ'.state.base.server.isRunning = true).Reachable σ →
      (∃ cid data, .connection cid data ∈ σ.state.connectionUpdates.1) →
      (σ.asleep () = false ∧ σ.state.loop ≠ .returned) ∨ ∃ w, σ.owed w = true) ∧
    ∀ σ : Signalled (MatchmakingServer T D Worker) Unit Worker,
      ((matchSignalling cfg mm timestep).signalled.restrict
        fun _ _ σ' => σ'.state.base.server.isRunning = true).Reachable σ →
      σ.state.connectionUpdates.1 ≠ [] →
      (σ.asleep () = false ∧ σ.state.loop ≠ .returned) ∨ ∃ w, σ.owed w = true :=
  ⟨fun _ => actions_attended, fun _ => connects_attended, fun _ => updates_attended⟩

/-- The base server of natural numbers with two workers, one thread of the transport and
`m_action_cond`. -/
abbrev natActionSignalling :
    Signalling (System natTraits Bool Unit) Bool (Unit ⊕ Unit) (List (Event natTraits)) :=
  actionSignalling Unit natConfig

/-- Both workers wait, a client connects and the notification is still to be issued. -/
theorem no_work_forgotten_connect :
    ∃ σ : Signalled (System natTraits Bool Unit) Bool (Unit ⊕ Unit),
      σ.state.server.actions ≠ [] ∧ (∀ w, σ.asleep w = true) ∧ ∃ p, σ.owed p = true := by
  have h0 : (natActionSignalling.signalled.restrict
      fun _ _ σ' => σ'.state.server.isRunning = true).Reachable
      ⟨.start 0, fun _ => false, fun _ => false⟩ :=
    .init ⟨⟨0, rfl⟩, fun _ => rfl, fun _ => rfl⟩
  have go {σ : Signalled (System natTraits Bool Unit) Bool (Unit ⊕ Unit)}
      {p : Option (Unit ⊕ Unit)} {evs : List (Event natTraits)} {s : System natTraits Bool Unit}
      (h : (natActionSignalling.signalled.restrict
        fun _ _ σ' => σ'.state.server.isRunning = true).Reachable σ)
      (hs : StepBy natConfig p σ.state evs s) (hp : ∀ q, σ.owed q = false)
      (ha : ∀ t, σ.asleep t = true → natActionSignalling.waits s t = true)
      (hr : s.server.isRunning = true) :
      (natActionSignalling.signalled.restrict
        fun _ _ σ' => σ'.state.server.isRunning = true).Reachable
        ⟨s, natActionSignalling.sleeps σ s, natActionSignalling.owes σ evs s p⟩ :=
    h.step ⟨.act p hs (fun q _ => hp q) ha, hr⟩
  have h1 := go h0 (.control (.run rfl)) (by decide) (by decide) rfl
  have h2 := go h1 (.worker true (.enter rfl)) (by decide) (by decide) rfl
  have h3 := go h2 (.worker true (.wait rfl)) (by decide) (by decide) rfl
  have h4 := go h3 (.worker false (.enter rfl)) (by decide) (by decide) rfl
  have h5 := go h4 (.worker false (.wait rfl)) (by decide) (by decide) rfl
  have h6 := go h5 (.transport () (.onOpen (T := natTraits) 5 rfl)) (by decide) (by decide) rfl
  have hwork := (@no_work_forgotten natTraits _ _ Bool Unit Unit _ _ _ _ natConfig natGame
    natMatchmaker 0).1 _ h6 (List.cons_ne_nil _ _)
  refine ⟨_, List.cons_ne_nil _ _, by decide, hwork.resolve_left ?_⟩
  rintro ⟨w, hw, -⟩
  revert w
  decide

end WebGameServer
