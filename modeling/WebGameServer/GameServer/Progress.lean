import Mathlib.Data.Prod.Lex
import WebGameServer.BaseServer.Progress
import WebGameServer.GameServer.LifeCycle

namespace WebGameServer
set_option autoImplicit true

section Local

variable {T : Traits} {G Worker : Type} {cfg : Config T} {inst : GameInstance T G}
  {timestep : Int} {gs gs' : GameServer T G Worker} {sid : T.SessionId}

/-- What lies before the thread until it compares the time with `timestep`: the part of the loop,
the entries left in it and the messages left of one of them. -/
def GamePc.ahead (finished : List T.SessionId) : GamePc T → Nat × Nat × Nat
  | .timing _ | .returned => (0, 0, 0)
  | .relocking _ => (1, 0, 0)
  | .checking _ | .waiting _ => (2, 0, 0)
  | .locking _ => (3, 0, 0)
  | .testing => (4, 0, 0)
  | .finishing todo => (5, todo.card, 0)
  | .ending _ todo => (5, todo.card, 1)
  | .sending todo => (6, todo.card, 0)
  | .sendingTo _ msgs todo => (6, todo.card, msgs.length + 1)
  | .updating _ => (7, 0, 0)
  | .erasing _ => (8, finished.length, 0)
  | .connecting _ todo => (9, todo.length, 0)

/-- Lexicographic order, with the steps left of the call that the thread is in at the end. -/
def GameServer.rank (gs : GameServer T G Worker) : Nat ×ₗ Nat ×ₗ Nat ×ₗ Nat :=
  toLex ((gs.loop.ahead gs.finishedGames).1, toLex ((gs.loop.ahead gs.finishedGames).2.1,
    toLex ((gs.loop.ahead gs.finishedGames).2.2, (gs.base.caller ()).distance)))

theorem rank_lt_of_call (hl : gs'.loop = gs.loop) (hf : gs'.finishedGames = gs.finishedGames)
    (hc : (gs'.base.caller ()).distance < (gs.base.caller ()).distance) : gs'.rank < gs.rank := by
  simp only [GameServer.rank, hl, hf, Prod.Lex.toLex_lt_toLex]
  exact .inr ⟨trivial, .inr ⟨trivial, .inr ⟨trivial, hc⟩⟩⟩

theorem rank_eq (hl : gs'.loop = gs.loop) (hf : gs'.finishedGames = gs.finishedGames)
    (hc : gs'.base.caller () = gs.base.caller ()) : gs'.rank = gs.rank := by
  rw [GameServer.rank, hl, hf, hc, GameServer.rank]

def GameServer.Awake (gs : GameServer T G Worker) : Prop :=
  ∀ t, gs.loop = .checking t ∨ gs.loop = .waiting t → gs.connectionUpdates.1 ≠ []

/-- Each step of the loop brings the thread closer to the comparison with `timestep`. -/
theorem LoopStep.rank_lt (h : LoopStep cfg inst timestep gs evs gs')
    (hl : ∀ t, gs.loop ≠ .timing t) (hrun : gs.base.server.isRunning = true)
    (hw : gs.Awake) : gs'.loop ≠ .returned ∧ gs'.rank < gs.rank := by
  have lower (hr : gs'.loop ≠ .returned)
      (hlt : (gs'.loop.ahead gs'.finishedGames).1 < (gs.loop.ahead gs.finishedGames).1 ∨
        (gs'.loop.ahead gs'.finishedGames).1 = (gs.loop.ahead gs.finishedGames).1 ∧
        ((gs'.loop.ahead gs'.finishedGames).2.1 < (gs.loop.ahead gs.finishedGames).2.1 ∨
          (gs'.loop.ahead gs'.finishedGames).2.1 = (gs.loop.ahead gs.finishedGames).2.1 ∧
          (gs'.loop.ahead gs'.finishedGames).2.2 < (gs.loop.ahead gs.finishedGames).2.2)) :
      gs'.loop ≠ .returned ∧ gs'.rank < gs.rank := by
    simp only [GameServer.rank, Prod.Lex.toLex_lt_toLex]
    exact ⟨hr, by omega⟩
  have running (hr : gs.base.server.isRunning = false) : False := by
    rw [hrun] at hr
    cases hr
  cases h with
  | exit h₀ hr | wakeStopped h₀ hr => exact (running hr).elim
  | wait h₀ hu => exact (hw _ (.inl h₀) hu).elim
  | recheck h₀ hr hu => exact (hw _ (.inr h₀) hu).elim
  | sleep h₀ | swapUpdates h₀ => exact (hl _ h₀).elim
  | sendSession sid h₀ hm | skipGame sid h₀ hm | endGame sid h₀ hm =>
    apply lower nofun
    rw [h₀]
    have hcard := Finset.card_erase_add_one hm
    simp only [GamePc.ahead, true_and]
    omega
  | sendMessage h₀ | clearMessages h₀ | pushFinished h₀ | disconnectPlayer h₀
  | disconnectIgnored h₀ | connectPlayer h₀ | createGame h₀ | rejectData h₀ =>
    apply lower nofun
    rw [h₀]
    simp [GamePc.ahead]
  | @eraseFinished a rest _ t h₀ hf =>
    have hloop : (gs.eraseGame a).loop = .erasing t := h₀
    apply lower (by rw [hloop]; nofun)
    rw [h₀, hf, hloop]
    exact .inr ⟨rfl, .inl (Nat.lt_succ_self _)⟩
  | enter t h₀ | lock h₀ | noGames h₀ | pass h₀ | wake h₀ | relock h₀ | clearUpdates h₀
  | clearFinished h₀ | updateGames order h₀ | sendDone h₀ | finish h₀ =>
    apply lower nofun
    rw [h₀]
    simp [GamePc.ahead]

theorem exists_completing (cfg : Config T) (me : Thread) (s : Server T Thread)
    (hn : s.sessionLock = none) (sid : T.SessionId) (r : SessionData T) :
    ∃ s' pc, CallerStep cfg me s .idle [.completing sid r] s' pc := by
  cases hl : (s.updateSessionLocks cfg.sessionReleaseTime ⟨0, 0⟩).isLocked sid with
  | true => exact ⟨_, _, .completeLocked ⟨0, 0⟩ sid r hn hl⟩
  | false => exact ⟨_, _, .completeSession ⟨0, 0⟩ sid r hn hl⟩

theorem exists_sending (cfg : Config T) (me : Thread) (s : Server T Thread) (cid : CombinedId T)
    (msg : String) : ∃ s' pc, CallerStep cfg me s .idle [.sending cid msg] s' pc := by
  cases h : s.idConnections.lookup cid with
  | none => exact ⟨_, _, .sendIgnored cid msg h⟩
  | some hdl => exact ⟨_, _, .sendMessage cid msg h⟩

theorem exists_loopStep (cfg : Config T) (inst : GameInstance T G) (timestep : Int)
    (hs : LifeCycle gs) (hr : gs.loop ≠ .returned) (hn : gs.base.server.sessionLock = none) :
    ∃ evs gs', LoopStep cfg inst timestep gs evs gs' := by
  cases hl : gs.loop with
  | testing =>
    cases h : gs.base.server.isRunning with
    | true => exact ⟨_, _, .enter 0 hl h⟩
    | false => exact ⟨_, _, .exit hl h⟩
  | returned => exact (hr hl).elim
  | locking t =>
    by_cases h : gs.games = ∅
    · exact ⟨_, _, .noGames hl h⟩
    · exact ⟨_, _, .lock hl h⟩
  | checking t =>
    by_cases h : gs.connectionUpdates.1 = []
    · exact ⟨_, _, .wait hl h⟩
    · exact ⟨_, _, .pass hl h⟩
  | waiting t =>
    cases hrun : gs.base.server.isRunning with
    | false => exact ⟨_, _, .wakeStopped hl hrun⟩
    | true =>
      by_cases h : gs.connectionUpdates.1 = []
      · exact ⟨_, _, .recheck hl hrun h⟩
      · exact ⟨_, _, .wake hl hrun h⟩
  | relocking t => exact ⟨_, _, .relock hl⟩
  | timing t =>
    by_cases h : t < timestep
    · exact ⟨_, _, .sleep hl h⟩
    · exact ⟨_, _, .swapUpdates hl h⟩
  | connecting t todo =>
    cases todo with
    | nil => exact ⟨_, _, .clearUpdates hl⟩
    | cons u todo =>
      cases u with
      | disconnection cid =>
        cases hg : gs.games.lookup cid.session with
        | none => exact ⟨_, _, .disconnectIgnored hl hg⟩
        | some g => exact ⟨_, _, .disconnectPlayer hl hg⟩
      | connection cid data =>
        cases hg : gs.games.lookup cid.session with
        | some g => exact ⟨_, _, .connectPlayer hl hg⟩
        | none =>
          cases hv : inst.isValid (inst.construct data) with
          | true => exact ⟨_, _, .createGame hl hg hv⟩
          | false =>
            obtain ⟨s, pc, hc⟩ := exists_completing cfg (.inr ()) gs.base.server hn cid.session
              ⟨cid.session, inst.getState (inst.construct data)⟩
            exact ⟨_, _, .rejectData hl hg hv hc⟩
  | erasing t =>
    cases hf : gs.finishedGames with
    | nil => exact ⟨_, _, .clearFinished hl hf⟩
    | cons sid rest => exact ⟨_, _, .eraseFinished hl hf⟩
  | updating t =>
    exact ⟨_, _, .updateGames gs.games.keys.toList hl (Finset.nodup_toList _)
      (Finset.toList_toFinset _)⟩
  | sending todo =>
    rcases todo.eq_empty_or_nonempty with rfl | ⟨sid, hsid⟩
    · exact ⟨_, _, .sendDone hl⟩
    · exact ⟨_, _, .sendSession sid hl hsid⟩
  | sendingTo sid msgs todo =>
    cases msgs with
    | nil => exact ⟨_, _, .clearMessages hl⟩
    | cons m msgs =>
      obtain ⟨s, pc, hc⟩ := exists_sending cfg (.inr ()) gs.base.server ⟨m.1, sid⟩ m.2
      exact ⟨_, _, .sendMessage hl hc⟩
  | finishing todo =>
    rcases todo.eq_empty_or_nonempty with rfl | ⟨sid, hsid⟩
    · exact ⟨_, _, .finish hl⟩
    · have hkey := (hs.unfinished sid (by rw [hl]; exact hsid)).1
      obtain ⟨g, hg⟩ := (Map.mem_keys_iff _).1 hkey
      cases hd : inst.isDone g.game with
      | false => exact ⟨_, _, .skipGame sid hl hsid hg hd⟩
      | true =>
        obtain ⟨s, pc, hc⟩ := exists_completing cfg (.inr ()) gs.base.server hn sid
          ⟨sid, inst.getState g.game⟩
        exact ⟨_, _, .endGame sid hl hsid hg hd hc⟩
  | ending sid todo => exact ⟨_, _, .pushFinished hl⟩

end Local

end WebGameServer
