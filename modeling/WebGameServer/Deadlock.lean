import WebGameServer.GameServer.Locking
import WebGameServer.MatchmakingServer.Agreement
import WebGameServer.MatchmakingServer.Locking

namespace WebGameServer
set_option autoImplicit true

/-- As long as `stop` never holds `m_action_lock` while a call of `complete_session` that holds
`m_session_lock` has a connected player left to close, no cycle of threads waiting for each
other's mutexes is reached, in a game server and in a matchmaking server. -/
theorem no_deadlock_without_overlap {T : Traits} {G D Worker Callback : Type}
    [DecidableEq Worker] [DecidableEq Callback] (cfg : Config T) (inst : GameInstance T G)
    (mm : Matchmaker T D) (timestep : Int) :
    (∀ σ : Locked (GameServer T G Worker) (ServerThread Worker Callback) Mutex,
      ((gameSections Callback cfg inst timestep).interleaving.restrict
        fun _ _ σ' => ¬ Overlapping GameServer.base σ').Reachable σ → ¬ σ.Deadlocked) ∧
    ∀ σ : Locked (MatchmakingServer T D Worker) (ServerThread Worker Callback) Mutex,
      ((matchSections Callback cfg mm timestep).interleaving.restrict
        fun _ _ σ' => ¬ Overlapping MatchmakingServer.base σ').Reachable σ → ¬ σ.Deadlocked :=
  ⟨fun _ => gameServer_not_deadlocked, fun _ => matchmakingServer_not_deadlocked⟩

/-- The matchmaking server of natural numbers under its mutexes, with one thread for the
callbacks. -/
abbrev natMatchSections : Sections (MatchmakingServer natTraits Nat Unit)
    (ServerThread Unit Unit) Mutex (List (Event natTraits)) :=
  matchSections Unit natConfig natMatchmaker 0

def MatchmakingServer.kept (ms : MatchmakingServer natTraits Nat Unit) : List Mutex :=
  (ms.base.worker ()).keeps ++ (ms.loop.keeps ++ (ms.base.caller ()).keeps)

theorem visits_section {ms ms' : MatchmakingServer natTraits Nat Unit}
    {t : ServerThread Unit Unit} (h : natMatchSections.Visits ms)
    (hb : MatchBegins natConfig natMatchmaker 0 ms t locks)
    (hs : MatchSection natConfig natMatchmaker 0 ms t locks evs ms')
    (hlocks : locks.Nodup ∧ (∀ m ∈ locks, m ∉ ms.kept) ∧
      (ms'.point t).keeps MatchPc.keeps ⊆ (ms.point t).keeps MatchPc.keeps ++ locks) :
    natMatchSections.Visits ms' := by
  obtain ⟨hn, hfree, hk⟩ := hlocks
  apply h.section hb hs hn (fun m hm u hmem => hfree m hm ?_) hk
  cases u with
  | callback c => cases hmem
  | worker w => exact List.mem_append_left _ hmem
  | loop => exact List.mem_append_right _ hmem
  | control => cases hmem

/-- Eve is connected when the matchmaking thread completes her session, and `stop` is called
in between: each thread waits for the mutex of the other. -/
theorem stop_deadlocks_with_completion :
    ∃ σ, natMatchSections.interleaving.Reachable σ ∧ σ.Deadlocked := by
  have h0 : natMatchSections.Visits (.start 0) := Sections.visits_init ⟨0, rfl⟩
  have h1 := visits_section h0 .control (.run rfl (.run rfl)) (by decide)
  have h2 := visits_section h1 (.callback ()) (.callback () (.onMessage (3 : Nat) "eve"))
    (by decide)
  have h3 := visits_section h2 (.worker ()) (.worker () (.enter rfl) nofun) (by decide)
  have h4 := visits_section h3 (.worker ()) (.worker () (.pop rfl) nofun) (by decide)
  have h5 := visits_section h4 (.worker ()) (.worker () (.messageUnbound rfl rfl) nofun) (by decide)
  have h6 := visits_section h5 (.worker ()) (.worker () (.openSession ⟨0, 0⟩ rfl rfl rfl) nofun)
    (by decide)
  have h7 := visits_section h6 (.worker ()) (.worker () .setupConnectionId nofun) (by decide)
  have h8 := visits_section h7 (.worker ()) (.worker () .handleOpen nofun) (by decide)
  have h9 := visits_section h8 (.loop rfl (.enter rfl rfl)) (.loop rfl (.enter rfl rfl)) (by decide)
  have h10 := visits_section h9 (.loop rfl (.canMatch rfl)) (.loop rfl (.canMatch rfl)) (by decide)
  have h11 := visits_section h10 (.loop rfl (.swapUpdates 0 rfl (by decide)))
    (.loop rfl (.swapUpdates 0 rfl (by decide))) (by decide)
  have h12 := visits_section h11
    (.loop rfl (.rejectData rfl rfl rfl (.completeSession ⟨0, 0⟩ _ _ rfl rfl)))
    (.loop rfl (.rejectData rfl rfl rfl (.completeSession ⟨0, 0⟩ _ _ rfl rfl))) (by decide)
  have h13 := visits_section h12 (.call nofun) (.call nofun (.findPlayer (3 : Nat) (by decide) rfl))
    (by decide)
  have h14 := visits_section h13 .control (.stop (.stop rfl rfl (.stop rfl))) (by decide)
  obtain ⟨σ, hr, hσ, hstate⟩ := h14
  have hfree : σ.owner .action = none := by
    apply hσ.owner_eq_none
    intro u
    rw [hstate]
    cases u with
    | loop => decide
    | _ => exact List.not_mem_nil
  have hsession : σ.owner .session = some .loop := by
    apply (hσ.owner _ _).2
    rw [hstate]
    decide
  have hcontrol : natMatchSections.begins σ.state .control [.action, .session, .connection] := by
    rw [hstate]
    exact .control
  have hloop : natMatchSections.begins σ.state .loop [.action] := by
    rw [hstate]
    exact .call nofun
  have h17 := hr.step (.begin ServerThread.control _ (hσ.ready .control) hcontrol)
  have h18 := h17.step (.acquire ServerThread.control .action rfl hfree)
  have h19 := h18.step (.begin ServerThread.loop _ (hσ.ready .loop) hloop)
  exact ⟨_, h19, .control, .tail (.single ⟨.session, ⟨[.action], _, rfl⟩, hsession⟩)
    ⟨.action, ⟨[], _, rfl⟩, rfl⟩⟩

/-- The worker holds `m_action_lock`, for which `stop` waits. -/
theorem no_deadlock_without_overlap_waiting :
    ∃ σ : Locked (MatchmakingServer natTraits Nat Unit) (ServerThread Unit Unit) Mutex,
      σ.BlockedBy .control (.worker ()) ∧ ¬ σ.Deadlocked := by
  have h0 : (natMatchSections.interleaving.restrict
      fun _ _ σ => ¬ Overlapping MatchmakingServer.base σ).Reachable
        ⟨.start 0, fun _ => none, fun _ => .ready⟩ :=
    .init ⟨⟨0, rfl⟩, fun _ => rfl, fun _ => rfl⟩
  have go {σ σ' : Locked (MatchmakingServer natTraits Nat Unit) (ServerThread Unit Unit) Mutex}
      {l : Option (List (Event natTraits))}
      (h : (natMatchSections.interleaving.restrict
        fun _ _ σ => ¬ Overlapping MatchmakingServer.base σ).Reachable σ)
      (hs : natMatchSections.MutexStep σ l σ') (hn : σ'.owner .action ≠ some .control) :
      (natMatchSections.interleaving.restrict
        fun _ _ σ => ¬ Overlapping MatchmakingServer.base σ).Reachable σ' :=
    h.step ⟨hs, fun hover => hn hover.1⟩
  have h1 := go h0 (.begin ServerThread.control [] rfl MatchBegins.control) nofun
  have h2 := go h1 (.perform ServerThread.control rfl (MatchSection.run rfl (.run rfl))) nofun
  have h3 := go h2 (.done ServerThread.control rfl nofun) nofun
  have h4 := go h3 (.begin (ServerThread.worker ()) [] rfl (MatchBegins.worker ())) nofun
  have h5 := go h4 (.perform (ServerThread.worker ()) rfl
    (MatchSection.worker () (.enter rfl) nofun)) nofun
  have h6 := go h5 (.done (ServerThread.worker ()) rfl nofun) nofun
  have h7 := go h6 (.begin ServerThread.control [] rfl MatchBegins.control) nofun
  have h8 := go h7
    (.perform ServerThread.control rfl (MatchSection.stop (.stop rfl rfl (.stop rfl)))) nofun
  have h9 := go h8 (.done ServerThread.control rfl nofun) nofun
  have h10 := go h9 (.begin (ServerThread.worker ()) _ rfl (MatchBegins.worker ())) nofun
  have h11 := go h10 (.acquire (ServerThread.worker ()) .action rfl rfl) nofun
  have h12 := go h11 (.begin ServerThread.control _ rfl MatchBegins.control) nofun
  exact ⟨_, ⟨.action, ⟨[], _, rfl⟩, rfl⟩,
    (no_deadlock_without_overlap natConfig natGame natMatchmaker 0).2 _ h12⟩

end WebGameServer
