import WebGameServer.BaseServer.Answers
import WebGameServer.GameServer.Instances
import WebGameServer.GameServer.Liveness

namespace WebGameServer
set_option autoImplicit true

section Local

variable {T : Traits} {G Worker : Type} {cfg : Config T} {inst : GameInstance T G} {timestep : Int}
  {gs gs' : GameServer T G Worker} {L : List (ConnectionUpdate T)} {u : ConnectionUpdate T}

/-- The step lets the player of a login into the game of the session, which it makes of the data of
the login if there is none yet, or it completes the session because the data makes no valid game. -/
inductive Joins (inst : GameInstance T G) (cid : CombinedId T) (data : T.Json)
    (gs gs' : GameServer T G Worker) : Prop where
  | connected : gs.games.lookup cid.session = some g →
      gs'.games.lookup cid.session =
        some ⟨(inst.connect g.game (gs.outOf cid.session) cid.player).1,
          g.calls ++ [.connect cid.player]⟩ →
      Joins inst cid data gs gs'
  | created : gs.games.lookup cid.session = none → inst.isValid (inst.construct data) = true →
      gs'.games.lookup cid.session =
        some ⟨(inst.connect (inst.construct data)
          ((gs.createGame cid.session (inst.construct data)).outOf cid.session) cid.player).1,
          [.connect cid.player]⟩ →
      Joins inst cid data gs gs'
  | rejected : gs.games.lookup cid.session = none → inst.isValid (inst.construct data) = false →
      gs'.base.log = gs.base.log ++
        [.completing cid.session ⟨cid.session, inst.getState (inst.construct data)⟩] →
      Joins inst cid data gs gs'

/-- The entry that was pushed as the last of `L` waits for the next tick, before what was pushed
since, and the thread has not returned. -/
def GameServer.Queued (L : List (ConnectionUpdate T)) (u : ConnectionUpdate T)
    (gs : GameServer T G Worker) : Prop :=
  gs.loop ≠ .returned ∧ ∃ before after,
    gs.connectionUpdates.1 = before ++ u :: after ∧ gs.pushed = L ++ after

/-- The tick has come to the entry that was pushed as the last of `L`: behind it there is what was
pushed since. -/
def GameServer.Reached (L : List (ConnectionUpdate T)) (u : ConnectionUpdate T)
    (gs : GameServer T G Worker) : Prop :=
  ∃ t after, gs.loop = .connecting t (u :: after) ∧
    gs.pushed = L ++ after ++ gs.connectionUpdates.1

/-- The entry that was pushed as the last of `L` is among those that the tick goes through. -/
def GameServer.Taken (L : List (ConnectionUpdate T)) (u : ConnectionUpdate T)
    (gs : GameServer T G Worker) : Prop :=
  ∃ t before after, gs.loop = .connecting t (before ++ u :: after) ∧
    gs.pushed = L ++ after ++ gs.connectionUpdates.1

theorem LoopStep.joins (h : LoopStep cfg inst timestep gs evs gs')
    (hl : gs.loop = .connecting t (.connection cid data :: todo)) : Joins inst cid data gs gs' := by
  cases h with
  | connectPlayer h₀ hg =>
    cases hl.symm.trans h₀
    exact .connected hg ((lookup_connectPlayer inst gs _ _ _).trans (if_pos rfl))
  | createGame h₀ hg hv =>
    cases hl.symm.trans h₀
    exact .created hg hv ((lookup_connectPlayer inst (gs.createGame _ _) _ _ _).trans (if_pos rfl))
  | rejectData h₀ hg hv hc =>
    cases hl.symm.trans h₀
    exact .rejected hg hv rfl
  | enter _ h₀ | exit h₀ | lock h₀ | noGames h₀ | wait h₀ | pass h₀ | wakeStopped h₀ | wake h₀
  | recheck h₀ | relock h₀ | sleep h₀ | swapUpdates h₀ | disconnectPlayer h₀ | disconnectIgnored h₀
  | clearUpdates h₀ | eraseFinished h₀ | clearFinished h₀ | updateGames _ h₀ | sendSession _ h₀
  | sendMessage h₀ | clearMessages h₀ | sendDone h₀ | skipGame _ h₀ | endGame _ h₀ | pushFinished h₀
  | finish h₀ => cases hl.symm.trans h₀

theorem LoopStep.pushed (h : LoopStep cfg inst timestep gs evs gs') : gs'.pushed = gs.pushed := by
  cases h with
  | rejectData | sendMessage | endGame =>
    exact (GameServer.pushed_append rfl).trans (List.append_nil _)
  | updateGames => rw [GameServer.processGameUpdates_eq]; rfl
  | _ => rfl

theorem Untouched.queued (hu : Untouched gs gs') (h : gs.Queued L u) : gs'.Queued L u := by
  obtain ⟨hl, before, after, hm, hp⟩ := h
  obtain ⟨us, hus, hps⟩ := hu.updates
  refine ⟨hu.loop ▸ hl, before, after ++ us, ?_, ?_⟩
  · rw [hus, hm, List.append_assoc, List.cons_append]
  · rw [hps, hp, List.append_assoc]

theorem Untouched.taken (hu : Untouched gs gs') (h : gs.Taken L u) : gs'.Taken L u := by
  obtain ⟨t, before, after, hl, hp⟩ := h
  obtain ⟨us, hus, hps⟩ := hu.updates
  refine ⟨t, before, after, hu.loop.trans hl, ?_⟩
  rw [hps, hp, hus, List.append_assoc _ _ us]

theorem GameServer.Queued.swapUpdates (hq : gs.Queued L u) (hl : gs.loop = .timing t)
    (hc : gs.updates.Cleared) :
    ({ gs.swapUpdates with loop := .connecting t gs.connectionUpdates.1 }).Taken L u := by
  obtain ⟨-, before, after, hm, hp⟩ := hq
  have hsecond : gs.connectionUpdates.2 = [] := (hc (congrArg GamePc.processing hl)).1
  refine ⟨t, before, after, congrArg _ hm, ?_⟩
  rw [GameServer.swapUpdates, hsecond, List.append_nil]
  exact hp

theorem LoopStep.queued (h : LoopStep cfg inst timestep gs evs gs')
    (hrun : gs.base.server.isRunning = true) (hc : gs.updates.Cleared) (hq : gs.Queued L u) :
    gs'.Queued L u ∨ (∃ t, gs.loop = .timing t) ∧ gs'.Taken L u := by
  have stays (hl : gs'.loop ≠ .returned)
      (hu : gs'.connectionUpdates.1 = gs.connectionUpdates.1) : gs'.Queued L u := by
    obtain ⟨-, before, after, hm, hp⟩ := hq
    exact ⟨hl, before, after, hu.trans hm, h.pushed.trans hp⟩
  cases h with
  | exit h₀ hr | wakeStopped h₀ hr =>
    rw [hrun] at hr
    cases hr
  | swapUpdates h₀ ht => exact .inr ⟨⟨_, h₀⟩, hq.swapUpdates h₀ hc⟩
  | eraseFinished h₀ => exact .inl (stays hq.1 rfl)
  | updateGames order h₀ =>
    apply Or.inl (stays nofun _)
    rw [GameServer.processGameUpdates_eq]
  | _ => exact .inl (stays nofun rfl)

theorem LoopStep.taken (h : LoopStep cfg inst timestep gs evs gs') (hm : gs.Taken L u) :
    gs'.Taken L u ∨ gs.Reached L u := by
  obtain ⟨t, before, after, hl, hp⟩ := hm
  have next {u' : ConnectionUpdate T} {t' rest} (h₀ : gs.loop = .connecting t' (u' :: rest))
      (hl' : gs'.loop = .connecting t' rest)
      (hu : gs'.connectionUpdates = gs.connectionUpdates) :
      gs'.Taken L u ∨ gs.Reached L u := by
    rw [hl] at h₀
    cases before with
    | nil => exact .inr ⟨t, after, hl, hp⟩
    | cons b before =>
      cases h₀
      exact .inl ⟨_, before, after, hl', by rw [h.pushed, hp, hu]⟩
  cases h with
  | disconnectPlayer h₀ | disconnectIgnored h₀ | connectPlayer h₀ | createGame h₀
  | rejectData h₀ => exact next h₀ rfl rfl
  | clearUpdates h₀ =>
    have he := hl.symm.trans h₀
    simp at he
  | enter _ h₀ | exit h₀ | lock h₀ | noGames h₀ | wait h₀ | pass h₀ | wakeStopped h₀ | wake h₀
  | recheck h₀ | relock h₀ | sleep h₀ | swapUpdates h₀ | eraseFinished h₀ | clearFinished h₀
  | updateGames _ h₀ | sendSession _ h₀ | sendMessage h₀ | clearMessages h₀ | sendDone h₀
  | skipGame _ h₀ | endGame _ h₀ | pushFinished h₀ | finish h₀ => cases hl.symm.trans h₀

end Local

section Executions

variable {T : Traits} {G Worker : Type} [DecidableEq Worker] {cfg : Config T}
  {P : GameInstance T G → Prop} {timestep : Int} {gs gs' : GameServer T G Worker}
  {x : GameExecution cfg P timestep Worker} {L : List (ConnectionUpdate T)}
  {u : ConnectionUpdate T}

/-- The clock goes on: if the thread compares the time since the last tick with `timestep` again and
again, it is not always too short. -/
def GameExecution.Ticks (x : GameExecution cfg P timestep Worker) : Prop :=
  (x.Often fun gs => ∃ t, gs.loop = .timing t) →
    x.Often fun gs => ∃ t, gs.loop = .timing t ∧ ¬ t < timestep

theorem queued_timing (hP : ∃ inst, P inst) (hloop : x.Fair (LoopActs cfg P timestep))
    (hworkers : ∀ w, x.Fair (GameWorkerActs cfg w)) :
    x.LeadsTo (fun gs => gs.base.server.isRunning = true ∧ gs.Queued L u)
      fun gs => ∃ t, gs.loop = .timing t := by
  apply loop_leadsTo hP hloop hworkers And.left fun hq hu => hu.queued hq
  intro inst gs evs gs' hr hrun hq hn hinst h
  have htiming : ∀ t, gs.loop ≠ .timing t := fun t hl => hn ⟨t, hl⟩
  have hne : gs.connectionUpdates.1 ≠ [] := by
    obtain ⟨-, before, after, hm, -⟩ := hq
    rw [hm]
    exact List.append_ne_nil_of_right_ne_nil _ (List.cons_ne_nil _ _)
  have hlt := h.rank_lt htiming hrun fun _ _ => hne
  rcases h.queued hrun (updates_cleared.reachable hr) hq with hq' | ⟨⟨t, hl⟩, -⟩
  · exact .inr ⟨hq', hlt.2⟩
  · exact (htiming t hl).elim

theorem queued_taken (hP : ∃ inst, P inst) (hloop : x.Fair (LoopActs cfg P timestep))
    (hworkers : ∀ w, x.Fair (GameWorkerActs cfg w)) (hticks : x.Ticks) :
    x.LeadsTo (fun gs => gs.base.server.isRunning = true ∧ gs.Queued L u)
      fun gs => gs.Taken L u := by
  apply Execution.leadsTo_of_often _ (queued_timing hP hloop hworkers) hticks
  · intro n h
    apply loop_leadsTo hP hloop hworkers (Q := fun gs => gs.Taken L u)
      (R := fun gs => (∃ t, gs.loop = .timing t ∧ ¬ t < timestep) ∧ gs.Queued L u)
      (fun hp => hp.2.1) _ _ n ⟨h.1.1, h.2, h.1.2⟩
    · intro gs gs' hp hu
      exact ⟨hu.loop ▸ hp.1, hu.queued hp.2⟩
    · intro inst gs evs gs' hr hrun hp hn hinst h
      obtain ⟨⟨t, hl, ht⟩, hq⟩ := hp
      left
      cases h with
      | sleep h₀ ht' =>
        cases hl.symm.trans h₀
        exact (ht ht').elim
      | swapUpdates h₀ ht' => exact hq.swapUpdates h₀ (updates_cleared.reachable hr)
      | enter _ h₀ | exit h₀ | lock h₀ | noGames h₀ | wait h₀ | pass h₀ | wakeStopped h₀ | wake h₀
      | recheck h₀ | relock h₀ | disconnectPlayer h₀ | disconnectIgnored h₀ | connectPlayer h₀
      | createGame h₀ | rejectData h₀ | clearUpdates h₀ | eraseFinished h₀ | clearFinished h₀
      | updateGames _ h₀ | sendSession _ h₀ | sendMessage h₀ | clearMessages h₀ | sendDone h₀
      | skipGame _ h₀ | endGame _ h₀ | pushFinished h₀ | finish h₀ => cases hl.symm.trans h₀
  · intro gs evs gs' hr hp hn h
    have hrun := step_running h hp.1
    rcases step_thread h with ⟨-, inst, evs, hinst, hstep⟩ | ⟨hu, -⟩
    · exact (hstep.queued hp.1 (updates_cleared.reachable hr) hp.2).imp (fun hq => ⟨hrun, hq⟩)
        And.right
    · exact .inl ⟨hrun, hu.queued hp.2⟩

theorem taken_left (hP : ∃ inst, P inst) (hloop : x.Fair (LoopActs cfg P timestep))
    (hworkers : ∀ w, x.Fair (GameWorkerActs cfg w)) :
    x.LeadsTo (fun gs => gs.base.server.isRunning = true ∧ gs.Taken L u)
      fun gs => ¬ gs.Taken L u := by
  apply loop_leadsTo hP hloop hworkers
  · rintro gs ⟨t, before, after, hl, -⟩ hr
    cases hl.symm.trans hr
  · exact fun hm hu => hu.taken hm
  · intro inst gs evs gs' hr hrun hm hn hinst h
    obtain ⟨t, before, after, hl, -⟩ := hm
    have hlt := h.rank_lt (fun t' he => by cases hl.symm.trans he) hrun
      (fun t' he => by cases he <;> next he => cases hl.symm.trans he)
    by_cases hm' : gs'.Taken L u
    · exact .inr ⟨hm', hlt.2⟩
    · exact .inl hm'

theorem step_reached (h : (varyingServer cfg P timestep).step gs evs gs') (hm : gs.Taken L u)
    (hn : ¬ gs'.Taken L u) :
    gs.Reached L u ∧ ∃ inst evs, P inst ∧ LoopStep cfg inst timestep gs evs gs' := by
  rcases step_thread h with ⟨-, inst, evs, hinst, hstep⟩ | ⟨hu, -⟩
  · exact ⟨(hstep.taken hm).resolve_left hn, inst, evs, hinst, hstep⟩
  · exact (hn (hu.taken hm)).elim

theorem taken_reached (hP : ∃ inst, P inst) (hloop : x.Fair (LoopActs cfg P timestep))
    (hworkers : ∀ w, x.Fair (GameWorkerActs cfg w)) {n : Nat}
    (hrun : (x.state n).base.server.isRunning = true) (hm : (x.state n).Taken L u) :
    ∃ k, n ≤ k ∧ (x.state k).Reached L u ∧
      ∃ inst evs, P inst ∧ LoopStep cfg inst timestep (x.state k) evs (x.state (k + 1)) := by
  obtain ⟨m, hnm, hleft⟩ := taken_left hP hloop hworkers n ⟨hrun, hm⟩
  obtain ⟨k, evs, hk, -, htaken, hleft, hstep⟩ :=
    x.exists_step (Q := fun gs => ¬ gs.Taken L u) hnm (not_not_intro hm) hleft
  exact ⟨k, hk, step_reached hstep (not_not.1 htaken) hleft⟩

theorem stays_running (x : GameExecution cfg P timestep Worker) {n k : Nat}
    (hrun : (x.state n).base.server.isRunning = true) (hl : (x.state n).loop ≠ .returned)
    (hk : n ≤ k) :
    (x.state k).base.server.isRunning = true ∧ (x.state k).loop ≠ .returned := by
  have hunless : (varyingServer cfg P timestep).Unless
      (fun gs : GameServer T G Worker => gs.base.server.isRunning = true ∧ gs.loop ≠ .returned)
      fun _ => False := by
    intro gs evs gs' hr hp hq h
    have hrun := step_running h hp.1
    rcases step_thread h with ⟨-, inst, evs, hinst, hstep⟩ | ⟨hu, -⟩
    · exact .inl ⟨hrun, hstep.not_returned hp.1 hp.2⟩
    · exact .inl ⟨hrun, hu.loop ▸ hp.2⟩
  exact (x.holds_until hunless ⟨hrun, hl⟩ hk).resolve_left fun ⟨_, _, h⟩ => h

theorem step_log (h : (varyingServer cfg P timestep).step gs evs gs') :
    gs'.base.log = gs.base.log ++ evs := by
  obtain ⟨hn, inst, -, hstep⟩ := h
  exact hstep.log hn

theorem login_queued (h : (varyingServer cfg P timestep).step gs evs gs')
    (hm : .handleOpen cid data ∈ evs) (hl : gs'.loop ≠ .returned) :
    gs'.Queued gs'.pushed (.connection cid data) := by
  refine ⟨hl, gs.connectionUpdates.1, [], ?_, (List.append_nil _).symm⟩
  obtain ⟨hn, inst, -, hstep⟩ := h
  cases hstep with
  | worker w h hfree =>
    rw [GameServer.foldl_handle_eq]
    generalize gs.base.worker w = pc at h
    cases h with
    | setupConnectionId =>
      obtain ⟨old, -, he⟩ := List.mem_map.1 hm
      cases he
    | handleOpen =>
      cases List.mem_singleton.1 hm
      rfl
    | _ => simp at hm
  | transport h => cases h.unhandled _ hm
  | loop hidle h => cases h <;> simp at hm
  | call hbusy h => cases h.unhandled _ hm
  | run h => cases h.unhandled _ hm
  | stop h => cases h <;> exact (hn List.mem_cons_self).elim

/-- If the scheduler is fair to the workers and to the thread in `update_games` and the clock goes
on: each message in the queue of a running server gets an answer of its own, and for each login
there is a tick later that comes to this login in the queue and lets the player into the game of the
session or completes the session because of the data. -/
theorem logins_reach_games (hP : ∃ inst, P inst) (hloop : x.Fair (LoopActs cfg P timestep))
    (hworkers : ∀ w, x.Fair (GameWorkerActs cfg w)) (hticks : x.Ticks) (n : Nat) (w : Worker)
    (hrun : (x.state n).base.server.isRunning = true)
    (hw : (x.state n).base.worker w ≠ .returned) (hl : (x.state n).loop ≠ .returned) :
    (∀ pre hdl msg post, (x.state n).base.server.actions = pre ++ .inMessage hdl msg :: post →
      ∃ w' k m, n ≤ k ∧ (x.state k).base.popped = (x.state n).base.popped ++ pre ∧
        x.base.AnsweredBy w' hdl msg k m) ∧
    ∀ m evs cid data, n ≤ m → (x.state (m + 1)).base.log = (x.state m).base.log ++ evs →
      .handleOpen cid data ∈ evs →
      ∃ k inst, m < k ∧ P inst ∧
        (x.state k).Reached (x.state (m + 1)).pushed (.connection cid data) ∧
        Joins inst cid data (x.state k) (x.state (k + 1)) := by
  constructor
  · intro pre hdl msg post hsplit
    exact message_answered (x := x.base) (base_lock_released hP hloop hworkers)
      (fun w => fair_worker hP hloop (hworkers w)) hrun hw hsplit
  · intro m evs cid data hm hlog hopen
    have hnext := hm.trans (Nat.le_succ m)
    obtain ⟨hrun', hl'⟩ := stays_running x hrun hl hnext
    have hqueued : (x.state (m + 1)).Queued (x.state (m + 1)).pushed (.connection cid data) := by
      rcases x.next m with he | ⟨evs', hstep⟩
      · rw [he] at hlog
        rw [List.self_eq_append_right.1 hlog] at hopen
        cases hopen
      · rw [step_log hstep] at hlog
        apply login_queued hstep _ hl'
        rw [List.append_cancel_left hlog]
        exact hopen
    obtain ⟨m₁, hm₁, htaken⟩ := queued_taken hP hloop hworkers hticks (m + 1) ⟨hrun', hqueued⟩
    have hrun₁ := (stays_running x hrun hl (hnext.trans hm₁)).1
    obtain ⟨k, hk, hreached, inst, evs₂, hinst, hstep⟩ :=
      taken_reached hP hloop hworkers hrun₁ htaken
    have ⟨t, todo, hl₂, _⟩ := hreached
    exact ⟨k, inst, hm₁.trans hk, hinst, hreached, hstep.joins hl₂⟩

end Executions

/-- Zoe's login makes a game, which her message ends. -/
theorem logins_reach_games_zoe :
    ∃ (x : GameExecution natConfig (· = onceGame) 0 Unit) (n k : Nat) (g : Game natTraits Nat),
      n < k ∧
      (x.state n).base.worker () = .entering (5 : Nat) ⟨(4 : Nat), (8 : Nat)⟩ (0 : Nat) ∧
      (x.state k).Reached (x.state (n + 1)).pushed
        (.connection ⟨(4 : Nat), (8 : Nat)⟩ (0 : Nat)) ∧
      (x.state (k + 1)).games.lookup 8 = some g ∧ .connect 4 ∈ g.calls := by
  have r1 : (varyingServer natConfig (· = onceGame) 0).Run
      (GameServer.start 0 : GameServer natTraits Nat Unit) _ _ :=
    .cons ⟨by simp, onceGame, rfl, .run (.run rfl)⟩ .nil
  have r2 := r1.snoc ⟨by simp, onceGame, rfl, .transport (.onMessage (5 : Nat) "zoe")⟩
  have r3 := r2.snoc ⟨by simp, onceGame, rfl, .transport (.onMessage (5 : Nat) "hi")⟩
  have r4 := r3.snoc ⟨by simp, onceGame, rfl, .worker () (.enter rfl) nofun⟩
  have r5 := r4.snoc ⟨by simp, onceGame, rfl, .worker () (.pop rfl) nofun⟩
  have r6 := r5.snoc ⟨by simp, onceGame, rfl, .worker () (.messageUnbound rfl rfl) nofun⟩
  have r7 := r6.snoc ⟨by simp, onceGame, rfl, .worker () (.openSession ⟨0, 0⟩ rfl rfl rfl) nofun⟩
  have r8 := r7.snoc ⟨by simp, onceGame, rfl, .worker () .setupConnectionId nofun⟩
  have hs := r8.next ⟨by simp, onceGame, rfl, .worker () .handleOpen nofun⟩
  have q1 := (r8.snoc hs).rest.snoc ⟨by simp, onceGame, rfl, .worker () (.enter rfl) nofun⟩
  have q2 := q1.snoc ⟨by simp, onceGame, rfl, .worker () (.pop rfl) nofun⟩
  have q3 := q2.snoc ⟨by simp, onceGame, rfl, .worker () (.messageBound rfl rfl) nofun⟩
  have q4 := q3.snoc ⟨by simp, onceGame, rfl, .worker () .handleMessage nofun⟩
  have q5 := q4.snoc ⟨by simp, onceGame, rfl, .loop rfl (.enter 0 rfl rfl)⟩
  have q6 := q5.snoc ⟨by simp, onceGame, rfl, .loop rfl (.noGames rfl rfl)⟩
  have q7 := q6.snoc ⟨by simp, onceGame, rfl, .loop rfl (.pass rfl nofun)⟩
  have q8 := q7.snoc ⟨by simp, onceGame, rfl, .loop rfl (.relock rfl)⟩
  have q9 := q8.snoc ⟨by simp, onceGame, rfl, .loop rfl (.swapUpdates rfl (by decide))⟩
  have q10 := q9.snoc ⟨by simp, onceGame, rfl, .loop rfl (.createGame rfl rfl rfl)⟩
  have q11 := q10.snoc ⟨by simp, onceGame, rfl, .loop rfl (.clearUpdates rfl)⟩
  have q12 := q11.snoc ⟨by simp, onceGame, rfl, .loop rfl (.clearFinished rfl rfl)⟩
  have q13 := q12.snoc ⟨by simp, onceGame, rfl,
    .loop rfl (.updateGames [(8 : Nat)] rfl (by decide) rfl)⟩
  have q14 := q13.snoc ⟨by simp, onceGame, rfl, .loop rfl (.sendSession (8 : Nat) rfl (by decide))⟩
  have q15 := q14.snoc ⟨by simp, onceGame, rfl, .loop rfl (.clearMessages rfl)⟩
  have q16 := q15.snoc ⟨by simp, onceGame, rfl, .loop rfl (.sendDone rfl)⟩
  have q17 := q16.snoc ⟨by simp, onceGame, rfl,
    .loop rfl (.endGame (8 : Nat) rfl (by decide) rfl rfl (.completeSession ⟨0, 0⟩ _ _ rfl rfl))⟩
  have q18 := q17.snoc ⟨by simp, onceGame, rfl, .call nofun (.findPlayer (4 : Nat) (by decide) rfl)⟩
  have q19 := q18.snoc ⟨by simp, onceGame, rfl, .call nofun .closePlayer⟩
  have q20 := q19.snoc ⟨by simp, onceGame, rfl, .call nofun .lockSession⟩
  have q21 := q20.snoc ⟨by simp, onceGame, rfl, .loop rfl (.pushFinished rfl)⟩
  have q22 := q21.snoc ⟨by simp, onceGame, rfl, .loop rfl (.finish rfl)⟩
  have q23 := q22.snoc ⟨by simp, onceGame, rfl, .loop rfl (.enter 0 rfl rfl)⟩
  have q24 := q23.snoc ⟨by simp, onceGame, rfl,
    .loop rfl (.lock rfl fun he =>
      Option.some_ne_none _ (congrArg (Finmap.lookup (8 : Nat)) he))⟩
  have q25 := q24.snoc ⟨by simp, onceGame, rfl, .loop rfl (.swapUpdates rfl (by decide))⟩
  have q26 := q25.snoc ⟨by simp, onceGame, rfl, .loop rfl (.clearUpdates rfl)⟩
  have q27 := q26.snoc ⟨by simp, onceGame, rfl, .loop rfl (.eraseFinished rfl rfl)⟩
  have q28 := q27.snoc ⟨by simp, onceGame, rfl, .loop rfl (.clearFinished rfl rfl)⟩
  have q29 := q28.snoc ⟨by simp, onceGame, rfl, .loop rfl (.updateGames [] rfl .nil rfl)⟩
  have q30 := q29.snoc ⟨by simp, onceGame, rfl, .loop rfl (.sendDone rfl)⟩
  have q31 := q30.snoc ⟨by simp, onceGame, rfl, .loop rfl (.finish rfl)⟩
  have q32 := q31.snoc ⟨by simp, onceGame, rfl, .loop rfl (.enter 0 rfl rfl)⟩
  have q33 := q32.snoc ⟨by simp, onceGame, rfl, .loop rfl (.noGames rfl rfl)⟩
  have q34 := q33.snoc ⟨by simp, onceGame, rfl, .loop rfl (.wait rfl rfl)⟩
  have q35 := q34.snoc ⟨by simp, onceGame, rfl, .worker () (.enter rfl) nofun⟩
  have q36 := q35.snoc ⟨by simp, onceGame, rfl, .worker () (.pop rfl) nofun⟩
  have q37 := q36.snoc ⟨by simp, onceGame, rfl, .worker () (.closeConnection rfl) nofun⟩
  have q38 := q37.snoc ⟨by simp, onceGame, rfl, .worker () (.enter rfl) nofun⟩
  have q39 := q38.snoc ⟨by simp, onceGame, rfl, .worker () (.wait rfl) nofun⟩
  obtain ⟨x, n, N, hn, hn', hrest⟩ := r8.lasso ⟨0, rfl⟩ hs q39
    (.inr ⟨_, by simp, onceGame, rfl, .loop rfl (.recheck rfl rfl rfl)⟩)
    (.inr ⟨_, by simp, onceGame, rfl, .loop rfl (.wait rfl rfl)⟩)
  have idle {m : Nat} (hm : N ≤ m) : (x.state m).base.worker () = .waiting ∧
      (x.state m).base.server.isRunning = true ∧ (x.state m).base.server.actions = [] ∧
      ∀ t, (x.state m).loop ≠ .timing t := by
    rcases hrest m hm with ⟨he, -⟩ | ⟨he, -⟩
    · rw [he]
      exact ⟨rfl, rfl, rfl, nofun⟩
    · rw [he]
      exact ⟨rfl, rfl, rfl, nofun⟩
  have hloop : x.Fair (LoopActs natConfig (· = onceGame) 0) :=
    .of_cycle hrest (.inr ⟨rfl, onceGame, [], rfl, .recheck rfl rfl rfl⟩)
      (.inr ⟨rfl, onceGame, [], rfl, .wait rfl rfl⟩)
  have hworkers (w : Unit) : x.Fair (GameWorkerActs natConfig w) := by
    apply Execution.Fair.of_disabled (n := N)
    rintro m hm ⟨gs', evs, s, pc, h, -⟩
    obtain ⟨hpc, hrun, hactions, -⟩ := idle hm
    rw [hpc] at h
    cases h with
    | wakeStopped hr => cases hrun.symm.trans hr
    | wakePop hr ha => cases hactions.symm.trans ha
  have hticks : GameExecution.Ticks x := by
    intro h
    obtain ⟨m, hm, t, hl⟩ := h N
    exact ((idle hm).2.2.2 t hl).elim
  have hstart : (x.state n).base.server.isRunning = true ∧
      (x.state n).base.worker () = .entering (5 : Nat) ⟨(4 : Nat), (8 : Nat)⟩ (0 : Nat) ∧
      (x.state n).loop = .testing := by
    rw [hn]
    exact ⟨rfl, rfl, rfl⟩
  obtain ⟨hrun, hw, hl⟩ := hstart
  obtain ⟨k, inst, hk, rfl, hreached, hjoins⟩ := (logins_reach_games (x := x) ⟨onceGame, rfl⟩ hloop
    hworkers hticks n () hrun (by rw [hw]; nofun) (by rw [hl]; nofun)).2 n _ _ _ (Nat.le_refl n)
    (step_log hn') List.mem_cons_self
  cases hjoins with
  | connected hg hnow =>
    exact ⟨x, n, k, _, hk, hw, hreached, hnow, List.mem_append_right _ List.mem_cons_self⟩
  | created hg hv hnow => exact ⟨x, n, k, _, hk, hw, hreached, hnow, List.mem_cons_self⟩
  | rejected hg hv hlog => cases hv

end WebGameServer
