import WebGameServer.BaseServer.Threads
import WebGameServer.Library.Mutexes

namespace WebGameServer
set_option autoImplicit true

/-- The mutexes of the servers; `updates` is `m_connection_update_list_lock`, `messages` is
`m_in_message_list_lock` and `games` is `m_game_list_lock` or `m_match_lock`. -/
inductive Mutex where
  | action
  | session
  | connection
  | updates
  | messages
  | games
  deriving DecidableEq

/-- The threads of a game or matchmaking server: any number of transport callbacks and of
workers, the thread in `update_games` or `match_players`, and the one that calls `stop`. -/
inductive ServerThread (Worker Callback : Type) where
  | callback (c : Callback)
  | worker (w : Worker)
  | loop
  | control
  deriving DecidableEq

/-- The program point of a thread. -/
inductive Point (T : Traits) (Loop Stop : Type) where
  | callback
  | worker (pc : WorkerPc T)
  | loop (pc : Loop) (call : CallerPc T)
  | control (stop : Stop) (pc : ControlPc)

section Points

variable {T : Traits} {Loop Stop Worker Callback : Type}

/-- The mutexes that a `process_messages` thread holds between two sections. -/
def WorkerPc.keeps : WorkerPc T → List Mutex
  | .binding _ _ _ | .entering _ _ _ => [.session]
  | _ => []

/-- The mutexes that a thread in `complete_session` holds between two sections. -/
def CallerPc.keeps : CallerPc T → List Mutex
  | .completing _ _ _ | .closing _ _ _ _ _ => [.session]
  | _ => []

def Point.keeps (loopKeeps : Loop → List Mutex) : Point T Loop Stop → List Mutex
  | .worker pc => pc.keeps
  | .loop pc call => loopKeeps pc ++ call.keeps
  | _ => []

def ActionType.mutexes : ActionType → List Mutex
  | .subscribe | .unsubscribe | .inMessage => [.connection]
  | .outMessage | .closeConnection => []

/-- The mutexes that the section at a program point acquires, where `handler` is the one
that the handler of messages acquires. -/
def WorkerPc.mutexes (cfg : Config T) (handler : Mutex) : WorkerPc T → List Mutex
  | .testing | .returned | .uncounting _ _ => []
  | .locking | .waiting => [.action]
  | .handling a => a.type.mutexes
  | .disconnecting _ _ | .binding _ _ _ => [.connection]
  | .leaving _ _ => [.session]
  | .opening _ token => if (cfg.verify token).isNone then [] else [.session]
  | .entering _ _ _ | .closing _ _ => [.updates]
  | .messaging _ _ _ => [handler]

def CallerPc.mutexes : CallerPc T → List Mutex
  | .idle => []
  | .completing _ _ todo => if todo = ∅ then [] else [.connection]
  | .closing _ _ _ _ _ | .sending _ _ _ => [.action]

/-- Before the acquisition of `m_action_lock` in `complete_session`. -/
def CallerPc.closes : CallerPc T → Bool
  | .closing _ _ _ _ _ => true
  | _ => false

def Point.closes : Point T Loop Stop → Bool
  | .loop _ call => call.closes
  | _ => false

inductive Nests : ServerThread Worker Callback → Point T Loop Stop → Mutex → Mutex → Prop where
  | setupConnectionId : Nests (.worker w) pt .session .connection
  | handleOpen : Nests (.worker w) pt .session .updates
  | games : m ≠ .games → Nests .loop pt .games m
  | relock : Nests .loop pt .updates .games
  | findPlayer : Nests .loop pt .session .connection
  | closePlayer : pt.closes = true → Nests .loop pt .session .action
  | stopSession : Nests .control pt .action .session
  | stopAction : Nests .control pt .action .connection
  | stopConnection : Nests .control pt .session .connection

def Mutex.rank : Mutex → Nat
  | .games => 0
  | .session => 1
  | .action => 2
  | .connection | .updates | .messages => 3

def Mutex.stopRank : Mutex → Nat
  | .games => 0
  | .action => 1
  | .session => 2
  | .connection | .updates | .messages => 3

theorem WorkerPc.length_mutexes (pc : WorkerPc T) (cfg : Config T) (handler : Mutex) :
    (pc.mutexes cfg handler).length ≤ 1 := by
  cases pc with
  | testing | returned | uncounting hdl cid => exact Nat.zero_le 1
  | handling a =>
    rw [WorkerPc.mutexes]
    cases a.type <;> decide
  | opening hdl token =>
    rw [WorkerPc.mutexes]
    split <;> decide
  | _ => exact Nat.le_refl 1

theorem WorkerPc.inOrder (pc : WorkerPc T) (cfg : Config T) (handler : Mutex) :
    Sections.InOrder (Nests (.worker w : ServerThread Worker Callback) pt) pc.keeps
      (pc.mutexes cfg handler) := by
  cases pc with
  | binding hdl cid data => exact ⟨List.forall_mem_singleton.2 .setupConnectionId, trivial⟩
  | entering hdl cid data => exact ⟨List.forall_mem_singleton.2 .handleOpen, trivial⟩
  | _ => exact Sections.inOrder_of_length (WorkerPc.length_mutexes _ cfg handler)

theorem CallerPc.inOrder (pc : Loop) (call : CallerPc T) :
    Sections.InOrder
      (Nests (.loop : ServerThread Worker Callback) (.loop pc call : Point T Loop Stop))
      ([.games] ++ call.keeps) call.mutexes := by
  cases call with
  | idle => trivial
  | completing sid r todo =>
    rw [CallerPc.mutexes]
    split
    · trivial
    · refine ⟨?_, trivial⟩
      exact List.forall_mem_cons.2 ⟨.games nofun, List.forall_mem_singleton.2 .findPlayer⟩
  | closing sid r todo pid hdl =>
    refine ⟨?_, trivial⟩
    exact List.forall_mem_cons.2 ⟨.games nofun, List.forall_mem_singleton.2 (.closePlayer rfl)⟩
  | sending cid hdl msg => exact ⟨List.forall_mem_singleton.2 (.games nofun), trivial⟩

theorem inOrder_games {ms : List Mutex} (h : ms.length ≤ 1) (hg : .games ∉ ms) :
    Sections.InOrder (Nests (.loop : ServerThread Worker Callback) pt) [.games] ms := by
  cases ms with
  | nil => trivial
  | cons m ms =>
    obtain rfl : ms = [] :=
      List.eq_nil_of_length_eq_zero (Nat.le_zero.1 (Nat.le_of_succ_le_succ h))
    have hm : m ≠ .games := fun he => hg (he ▸ List.mem_cons_self)
    exact ⟨List.forall_mem_singleton.2 (.games hm), trivial⟩

theorem inOrder_clearAll :
    Sections.InOrder (Nests (.control : ServerThread Worker Callback) pt) []
      [.action, .session, .connection] := by
  refine ⟨List.forall_mem_nil _, List.forall_mem_singleton.2 .stopSession, ?_, trivial⟩
  exact List.forall_mem_cons.2 ⟨.stopConnection, List.forall_mem_singleton.2 .stopAction⟩

/-- The call of `complete_session` has a connected player left to close. -/
def CallerPc.ClosesAhead {Thread : Type} (s : Server T Thread) : CallerPc T → Prop
  | .completing sid _ todo => ∃ pid ∈ todo, s.idConnections.lookup ⟨pid, sid⟩ ≠ none
  | .closing _ _ _ _ _ => True
  | _ => False

theorem CallerPc.closesAhead {Thread : Type} {pc : CallerPc T} (h : pc.closes = true)
    (s : Server T Thread) : pc.ClosesAhead s := by
  cases pc with
  | closing sid r todo pid hdl => trivial
  | _ => cases h

/-- `stop` holds `m_action_lock` while a call of `complete_session` that holds
`m_session_lock` has a connected player left to close. -/
def Overlapping {State : Type} (base : State → System T Worker Unit)
    (σ : Locked State (ServerThread Worker Callback) Mutex) : Prop :=
  σ.owner .action = some .control ∧ σ.owner .session = some .loop ∧
    ((base σ.state).caller ()).ClosesAhead (base σ.state).server

variable {State : Type} {σ : Locked State (ServerThread Worker Callback) Mutex}
  (point : ServerThread Worker Callback → Point T Loop Stop)

/-- Among threads that nest the mutexes as the servers do, a cycle needs `stop` holding
`m_action_lock` and `complete_session` holding `m_session_lock` and about to acquire the
other one. -/
theorem not_deadlocked_of_nests
    (h : ∀ t m n, σ.WaitsFor t m → σ.owner n = some t → Nests t (point t) n m)
    (hfree : ¬ (σ.owner .action = some .control ∧ σ.owner .session = some .loop ∧
      (point .loop).closes = true)) : ¬ σ.Deadlocked := by
  have hgames : ∀ v k, σ.owner .games = some v → σ.WaitsFor v k → v = .loop ∧ k ≠ .games := by
    intro v k hv hk
    cases h v k _ hk hv with
    | games hne => exact ⟨rfl, hne⟩
  have hrelock : ∀ u v, σ.WaitsFor u .games → u = .loop → σ.owner .games = some v →
      ¬ ∃ k, σ.WaitsFor v k := by
    rintro u v hu rfl hv ⟨k, hk⟩
    obtain ⟨rfl, hne⟩ := hgames v k hv hk
    exact hne (hk.unique hu)
  -- While `stop` waits for `m_session_lock`, only `complete_session` can hold it.
  by_cases hstop : σ.owner .action = some .control ∧ σ.WaitsFor .control .session
  · apply Locked.not_deadlocked_of_rank Mutex.stopRank
    intro t u v m n ht ho hu hv hw
    have hn := h u n m hu ho
    cases hn with
    | games hne => cases n <;> first | exact (hne rfl).elim | decide
    | relock => exact (hrelock _ v hu rfl hv hw).elim
    | closePlayer hc => exact (hfree ⟨hstop.1, ho, hc⟩).elim
    | _ => decide
  · apply Locked.not_deadlocked_of_rank Mutex.rank
    intro t u v m n ht ho hu hv hw
    have hn := h u n m hu ho
    cases hn with
    | games hne => cases n <;> first | exact (hne rfl).elim | decide
    | relock => exact (hrelock _ v hu rfl hv hw).elim
    | stopSession => exact (hstop ⟨ho, hu⟩).elim
    | _ => decide

end Points

end WebGameServer
