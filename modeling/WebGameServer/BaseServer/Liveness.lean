import WebGameServer.BaseServer.Progress
import WebGameServer.Library.Fairness

namespace WebGameServer
set_option autoImplicit true

section Executions

variable {T : Traits} {Worker Caller : Type} [DecidableEq Worker] [DecidableEq Caller]
  {cfg : Config T}

/-- The executions of the base server without `stop`. -/
abbrev ServerExecution (cfg : Config T) (Worker Caller : Type) [DecidableEq Worker]
    [DecidableEq Caller] : Type :=
  Execution ((baseServer cfg).restrict (NoStop : System T Worker Caller → _ → _ → Prop))

variable {x : ServerExecution cfg Worker Caller} {w : Worker} {c : Caller}

theorem worker_releases (hfair : x.Fair (WorkerActs cfg w)) :
    x.LeadsTo (fun σ => σ.server.sessionLock = some (.inl w))
      fun σ => σ.server.sessionLock = none := by
  have acts {σ σ' : System T Worker Caller}
      (hr : ((baseServer cfg).restrict NoStop).Reachable σ)
      (hl : σ.server.sessionLock = some (.inl w)) (h : WorkerActs cfg w σ σ') :
      σ'.server.sessionLock = none ∨ σ'.server.sessionLock = some (.inl w) ∧
        (σ'.worker w).distance < (σ.worker w).distance := by
    obtain ⟨evs, s, pc, hstep, rfl⟩ := h
    have hg := (heldInside_invariant.reachable hr.of_restrict).worker w hl
    simp only [Function.update_self]
    exact (hstep.release hg).imp_right fun ⟨he, hlt⟩ => ⟨he.trans hl, hlt⟩
  apply Execution.leadsTo_of_rank (fun σ => (σ.worker w).distance) hfair
  · intro σ evs σ' hr hl hnone h
    have hlocking := sessionLocking_invariant.reachable hr.of_restrict
    rcases h.1.lock_worker hlocking hl with ha | hl'
    · exact (acts hr hl ha).imp_right fun ⟨hl', hlt⟩ => ⟨hl', hlt.le⟩
    · rcases h.1.worker_eq w with ha | he
      · exact (acts hr hl ha).imp_right fun ⟨hl', hlt⟩ => ⟨hl', hlt.le⟩
      · exact .inr ⟨hl', by rw [he]⟩
  · intro σ σ' hr hl hnone h
    exact (acts hr hl h).imp_right And.right
  · apply Execution.LeadsTo.of_imp
    intro σ hr hl
    have hg := (heldInside_invariant.reachable hr.of_restrict).worker w hl
    obtain ⟨evs, s, pc, h⟩ := exists_guardedStep cfg (.inl w) σ.server (σ.worker w) hg
    exact .inr ⟨_, evs, s, pc, h, rfl⟩

theorem caller_releases (hfair : x.Fair (CallerActs cfg c)) :
    x.LeadsTo (fun σ => σ.server.sessionLock = some (.inr c))
      fun σ => σ.server.sessionLock = none := by
  have busy {σ : System T Worker Caller}
      (hr : ((baseServer cfg).restrict NoStop).Reachable σ)
      (hl : σ.server.sessionLock = some (.inr c)) :
      (σ.caller c).guarded ≠ none ∧ σ.caller c ≠ .idle := by
    have hg := (heldInside_invariant.reachable hr.of_restrict).caller c hl
    exact ⟨hg, fun he => hg (he ▸ rfl)⟩
  have acts {σ σ' : System T Worker Caller}
      (hr : ((baseServer cfg).restrict NoStop).Reachable σ)
      (hl : σ.server.sessionLock = some (.inr c)) (h : CallerActs cfg c σ σ') :
      σ'.server.sessionLock = none ∨ σ'.server.sessionLock = some (.inr c) ∧
        (σ'.caller c).distance < (σ.caller c).distance := by
    obtain ⟨hb, evs, s, pc, hstep, rfl⟩ := h
    simp only [Function.update_self]
    exact (hstep.release (busy hr hl).1).imp_right fun ⟨he, hlt⟩ => ⟨he.trans hl, hlt⟩
  apply Execution.leadsTo_of_rank (fun σ => (σ.caller c).distance) hfair
  · intro σ evs σ' hr hl hnone h
    have hlocking := sessionLocking_invariant.reachable hr.of_restrict
    have hb := (busy hr hl).2
    rcases h.1.lock_caller hlocking hl hb with ha | hl'
    · exact (acts hr hl ha).imp_right fun ⟨hl', hlt⟩ => ⟨hl', hlt.le⟩
    · rcases h.1.caller_eq c hb with ha | he
      · exact (acts hr hl ha).imp_right fun ⟨hl', hlt⟩ => ⟨hl', hlt.le⟩
      · exact .inr ⟨hl', by rw [he]⟩
  · intro σ σ' hr hl hnone h
    exact (acts hr hl h).imp_right And.right
  · apply Execution.LeadsTo.of_imp
    intro σ hr hl
    have hb := (busy hr hl).2
    obtain ⟨evs, s, pc, h⟩ := exists_callerStep cfg (.inr c) σ.server (σ.caller c) hb
    exact .inr ⟨_, hb, evs, s, pc, h, rfl⟩

theorem lock_released (hworkers : ∀ w, x.Fair (WorkerActs cfg w))
    (hcallers : ∀ c, x.Fair (CallerActs cfg c)) :
    x.Often fun σ => σ.server.sessionLock = none := by
  intro n
  cases hl : (x.state n).server.sessionLock with
  | none => exact ⟨n, Nat.le_refl n, hl⟩
  | some me =>
    cases me with
    | inl w => exact worker_releases (hworkers w) n hl
    | inr c => exact caller_releases (hcallers c) n hl

theorem worker_returns (hfree : x.Often fun σ => σ.server.sessionLock = none)
    (hfair : x.Fair (WorkerActs cfg w)) :
    x.LeadsTo (fun σ => (σ.worker w).Busy) fun σ => σ.worker w = .testing := by
  have acts {σ σ' : System T Worker Caller} (hb : (σ.worker w).Busy)
      (h : WorkerActs cfg w σ σ') :
      σ'.worker w = .testing ∨
        (σ'.worker w).Busy ∧ (σ'.worker w).distance < (σ.worker w).distance := by
    obtain ⟨evs, s, pc, hstep, rfl⟩ := h
    simp only [Function.update_self]
    exact hstep.busy_next hb
  have step {σ evs} {σ' : System T Worker Caller} (hb : (σ.worker w).Busy)
      (h : Step cfg σ evs σ') :
      σ'.worker w = .testing ∨
        (σ'.worker w).Busy ∧ (σ'.worker w).distance ≤ (σ.worker w).distance := by
    rcases h.worker_eq w with ha | he
    · exact (acts hb ha).imp_right fun ⟨hb', hlt⟩ => ⟨hb', hlt.le⟩
    · rw [he]
      exact .inr ⟨hb, le_refl _⟩
  apply Execution.leadsTo_of_rank_often (fun σ => (σ.worker w).distance) hfair hfree
  · exact fun hr hb hq h => step hb h.1
  · exact fun hr hb hq h => (acts hb h).imp_right And.right
  · intro σ hr hb hq hn
    obtain ⟨evs, s, pc, h⟩ := hb.exists_step cfg (.inl w) hn
    exact ⟨_, evs, s, pc, h, rfl⟩

def System.popped (σ : System T Worker Caller) : List (Action T) :=
  σ.log.filterMap Event.popped

theorem not_popped_lt {L taken queue : List (Action T)} (hL : L <+: taken ++ queue)
    (hn : ¬ L <+: taken) : taken.length < L.length ∧ queue ≠ [] := by
  rcases List.prefix_or_prefix_of_prefix hL (List.prefix_append taken queue) with h | h
  · exact (hn h).elim
  · constructor
    · apply Nat.lt_of_le_of_ne h.length_le
      exact fun he => hn (h.eq_of_length he ▸ List.prefix_refl _)
    · rintro rfl
      rw [List.append_nil] at hL
      exact hn hL

/-- While the server is running and a worker has not returned, the actions that are in the queue
come to be popped. -/
theorem actions_popped (hfree : x.Often fun σ => σ.server.sessionLock = none)
    (hfair : x.Fair (WorkerActs cfg w)) (L : List (Action T)) :
    x.LeadsTo
      (fun σ => σ.server.isRunning = true ∧ σ.worker w ≠ .returned ∧
        L <+: σ.popped ++ σ.server.actions)
      fun σ => L <+: σ.popped := by
  have acts {σ σ' : System T Worker Caller} (hrun : σ.server.isRunning = true)
      (hL : L <+: σ.popped ++ σ.server.actions) (hq : ¬ L <+: σ.popped)
      (h : WorkerActs cfg w σ σ') :
      σ'.worker w ≠ .returned ∧
        (L.length - σ'.popped.length) * 7 + (σ'.worker w).distance <
          (L.length - σ.popped.length) * 7 + (σ.worker w).distance := by
    obtain ⟨hlt, hne⟩ := not_popped_lt hL hq
    obtain ⟨evs, s, pc, hstep, rfl⟩ := h
    simp only [System.popped, List.filterMap_append, Function.update_self, List.length_append]
    simp only [System.popped] at hlt
    rcases hstep.advances.2 with
      ⟨a, rest, ha, ha', hp, rfl⟩ | ⟨ha, hp, ⟨hpc, hd⟩ | ⟨he, -⟩ | ⟨hr, -⟩⟩
    · rw [hp]
      refine ⟨nofun, ?_⟩
      simp only [WorkerPc.distance, List.length_cons, List.length_nil]
      omega
    · rw [hp]
      refine ⟨hpc, ?_⟩
      simp only [List.length_nil]
      omega
    · exact (hne he).elim
    · rw [hrun] at hr
      cases hr
  have step {σ evs} {σ' : System T Worker Caller} (hrun : σ.server.isRunning = true)
      (hw : σ.worker w ≠ .returned) (hL : L <+: σ.popped ++ σ.server.actions)
      (hq : ¬ L <+: σ.popped) (h : Step cfg σ evs σ') (hn : .stopping ∉ evs) :
      (σ'.server.isRunning = true ∧ σ'.worker w ≠ .returned ∧
        L <+: σ'.popped ++ σ'.server.actions) ∧
      (L.length - σ'.popped.length) * 7 + (σ'.worker w).distance ≤
        (L.length - σ.popped.length) * 7 + (σ.worker w).distance := by
    obtain ⟨hrun', hpopped, hqueue⟩ := h.appends hn
    rcases h.worker_eq w with ha | he
    · obtain ⟨hw', hlt⟩ := acts hrun hL hq ha
      exact ⟨⟨hrun' hrun, hw', hL.trans hqueue⟩, hlt.le⟩
    · rw [he]
      have hle := hpopped.length_le
      exact ⟨⟨hrun' hrun, hw, hL.trans hqueue⟩, by simp only [System.popped]; omega⟩
  apply Execution.leadsTo_of_rank_often
    (fun σ => (L.length - σ.popped.length) * 7 + (σ.worker w).distance) hfair hfree
  · intro σ evs σ' hr hP hq h
    exact .inr (step hP.1 hP.2.1 hP.2.2 hq h.1 h.2)
  · intro σ σ' hr hP hq h
    exact .inr (acts hP.1 hP.2.2 hq h).2
  · intro σ hr hP hq hn
    obtain ⟨hrun, hw, hL⟩ := hP
    obtain ⟨evs, s, pc, h⟩ := exists_workerStep cfg (.inl w) σ.server (σ.worker w) hn hw
      fun _ => ⟨hrun, (not_popped_lt hL hq).2⟩
    exact ⟨_, evs, s, pc, h, rfl⟩

end Executions

end WebGameServer
