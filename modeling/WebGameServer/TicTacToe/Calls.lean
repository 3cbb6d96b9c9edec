import WebGameServer.TicTacToe.Messages

namespace WebGameServer
set_option autoImplicit true

namespace TicTacToeGame

variable {lib : JsonLibrary} {g g' : TicTacToeGame} {out out' : List TicTacToeMessage}
  {msgs : List TicTacToeMessage} {deltaTime count : Int}

section Frames

theorem isDone_eq_false (h : g.isDone = false) :
    g.board.isDone = false ∧ g.gameOver = false :=
  Bool.or_eq_false_iff.1 h

theorem checkTime_eq (g : TicTacToeGame) (i : Fin 2) :
    g.checkTime i =
      { g with
        times := (g.checkTime i).times
        state := (g.checkTime i).state
        gameOver := (g.checkTime i).gameOver } := by
  simp only [checkTime]
  split <;> rfl

theorem runClock_eq (g : TicTacToeGame) (deltaTime : Int) :
    g.runClock deltaTime =
      { g with
        times := (g.runClock deltaTime).times
        state := (g.runClock deltaTime).state
        gameOver := (g.runClock deltaTime).gameOver } := by
  simp only [runClock, List.foldl_cons, List.foldl_nil]
  rw [checkTime_eq, checkTime_eq]

theorem advance_eq (lib : JsonLibrary) (g : TicTacToeGame) (out : List TicTacToeMessage)
    (deltaTime : Int) :
    (g.advance lib out deltaTime).1 =
      { g.runClock deltaTime with
        elapsedTime := (g.advance lib out deltaTime).1.elapsedTime } := by
  simp only [advance]
  by_cases h : 1000 ≤ (g.runClock deltaTime).elapsedTime + deltaTime
  · simp only [h, ↓reduceIte]
    split <;> rfl
  · simp only [h, ↓reduceIte]
    split <;> rfl

theorem update_running (hs : g.started = true) (ho : g.gameOver = false) :
    g.update lib out msgs deltaTime count =
      msgs.foldlM (takeMessage lib) (g.advance lib out deltaTime) := by
  simp only [update, hs, ho, Bool.not_false, Bool.and_self, ↓reduceIte]

theorem update_idle (h : g.started = false ∨ g.gameOver = true) :
    g.update lib out msgs deltaTime count =
      if g.valid && decide (1 < g.playerList.length) then .value (g.start lib out count)
      else .value (g, out) := by
  have hidle : (g.started && !g.gameOver) = false := by
    rcases h with h | h
    · rw [h, Bool.false_and]
    · rw [h, Bool.not_true, Bool.and_false]
  simp only [update, hidle, Bool.false_eq_true, ↓reduceIte]

/-- The players of a game are the same before and after the start, up to their order. -/
theorem swapPlayers_perm (players : List TicTacToePlayer) :
    (swapPlayers players).Perm players := by
  match players with
  | [] | [_] => exact .refl _
  | first :: second :: rest => exact .swap first second rest

theorem start_perm (lib : JsonLibrary) (g : TicTacToeGame) (out : List TicTacToeMessage)
    (count : Int) : (g.start lib out count).1.playerList.Perm g.playerList := by
  simp only [start]
  split
  · exact swapPlayers_perm _
  · exact .refl _

end Frames

inductive UpdateStep (lib : JsonLibrary) (g : TicTacToeGame) (out : List TicTacToeMessage)
    (deltaTime count : Int) : TicTacToeGame → Prop where
  | idle : g.started = false ∨ g.gameOver = true → UpdateStep lib g out deltaTime count g
  | start : g.started = false ∨ g.gameOver = true → g.valid = true → 1 < g.playerList.length →
      UpdateStep lib g out deltaTime count (g.start lib out count).1
  | run {g₁ : TicTacToeGame} : g.started = true → g.gameOver = false →
      Relation.ReflTransGen (MoveStep lib) (g.advance lib out deltaTime).1 g₁ →
      UpdateStep lib g out deltaTime count g₁

theorem moves_of_messages {s s' : TicTacToeGame × List TicTacToeMessage}
    (h : msgs.foldlM (takeMessage lib) s = .value s') :
    Relation.ReflTransGen (MoveStep lib) s.1 s'.1 := by
  apply Outcome.foldlM_preserves (P := fun t => Relation.ReflTransGen (MoveStep lib) s.1 t.1) _
    .refl h
  intro t msg t' _ hr ht
  rcases takeMessage_cases ht with ⟨-, hm⟩ | ⟨-, rfl⟩
  · exact hr.tail hm
  · exact hr

theorem idle_of_not_running (h : ¬ (g.started = true ∧ g.gameOver = false)) :
    g.started = false ∨ g.gameOver = true := by
  rcases Decidable.not_and_iff_or_not.1 h with hs | ho
  · exact .inl (Bool.eq_false_iff.2 hs)
  · exact .inr (by simpa only [Bool.not_eq_false] using ho)

theorem update_cases (h : g.update lib out msgs deltaTime count = .value (g', out')) :
    UpdateStep lib g out deltaTime count g' := by
  by_cases hrun : g.started = true ∧ g.gameOver = false
  · rw [update_running hrun.1 hrun.2] at h
    exact .run hrun.1 hrun.2 (moves_of_messages h)
  · have hidle := idle_of_not_running hrun
    rw [update_idle hidle] at h
    split at h
    · next hv =>
      obtain ⟨hvalid, hl⟩ := Bool.and_eq_true_iff.1 hv
      have he := congrArg Prod.fst (Outcome.value.inj h)
      subst he
      exact .start hidle hvalid (of_decide_eq_true hl)
    · have he := congrArg Prod.fst (Outcome.value.inj h)
      subst he
      exact .idle hidle

theorem connect_eq (lib : JsonLibrary) (g : TicTacToeGame) (out : List TicTacToeMessage)
    (id : TicTacToePlayer) :
    (g.connect lib out id).1 =
      { g with
        playerList := if g.dataMap.lookup id = none then g.playerList ++ [id] else g.playerList
        dataMap := g.dataMap.insert id true } := by
  simp only [connect]
  split <;> rfl

inductive CallStep (lib : JsonLibrary) (g : TicTacToeGame) :
    TicTacToeCall → TicTacToeGame → Prop where
  | connect (id : TicTacToePlayer) :
      CallStep lib g (.connect id)
        { g with
          playerList := if g.dataMap.lookup id = none then g.playerList ++ [id] else g.playerList
          dataMap := g.dataMap.insert id true }
  | disconnect (id : TicTacToePlayer) :
      CallStep lib g (.disconnect id) { g with dataMap := g.dataMap.insert id false }
  | update {out : List TicTacToeMessage} {msgs : List TicTacToeMessage} {deltaTime count : Int}
      {g₁ : TicTacToeGame} : UpdateStep lib g out deltaTime count g₁ →
      CallStep lib g (.update msgs deltaTime count) g₁

theorem call_cases {c : TicTacToeCall} (h : g.call lib out c = .value (g', out')) :
    CallStep lib g c g' := by
  cases c with
  | connect id =>
    have he := congrArg Prod.fst (Outcome.value.inj h)
    rw [connect_eq] at he
    subst he
    exact .connect id
  | disconnect id =>
    have he := congrArg Prod.fst (Outcome.value.inj h)
    subst he
    exact .disconnect id
  | update msgs deltaTime count => exact .update (update_cases h)

/-- The players of the game are distinct and have entries in `m_data_map`, and a game that has
started has two of them. -/
structure WellFormed (g : TicTacToeGame) : Prop where
  seated : g.started = true → 2 ≤ g.playerList.length
  known : ∀ p ∈ g.playerList, ∃ b, g.dataMap.lookup p = some b
  nodup : g.playerList.Nodup

section WellFormed

theorem WellFormed.of_eq (h : g.WellFormed) (hs : g'.started = g.started)
    (hp : g'.playerList = g.playerList) (hd : g'.dataMap = g.dataMap) : g'.WellFormed where
  seated := by
    rw [hs, hp]
    exact h.seated
  known := by
    rw [hp, hd]
    exact h.known
  nodup := hp ▸ h.nodup

theorem WellFormed.construct (msg : Json) : (TicTacToeGame.construct msg).WellFormed where
  seated h := Bool.noConfusion h
  known := List.forall_mem_nil _
  nodup := .nil

theorem WellFormed.known_insert (h : g.WellFormed) (id : TicTacToePlayer) (b : Bool) :
    ∀ p ∈ g.playerList, ∃ c, (g.dataMap.insert id b).lookup p = some c := by
  intro p hp
  rw [Map.lookup_insert_ite]
  split
  · exact ⟨b, rfl⟩
  · exact h.known p hp

theorem WellFormed.connect (h : g.WellFormed) (id : TicTacToePlayer) :
    WellFormed
      { g with
        playerList := if g.dataMap.lookup id = none then g.playerList ++ [id] else g.playerList
        dataMap := g.dataMap.insert id true } := by
  by_cases hid : g.dataMap.lookup id = none
  · have hnew : id ∉ g.playerList := by
      intro hm
      obtain ⟨b, hb⟩ := h.known id hm
      rw [hid] at hb
      cases hb
    simp only [hid, ↓reduceIte]
    constructor
    · intro hs
      rw [List.length_append]
      exact Nat.le_add_right_of_le (h.seated hs)
    · intro p hp
      rcases List.mem_append.1 hp with hp | hp
      · exact h.known_insert id true p hp
      · rw [List.mem_singleton.1 hp]
        exact ⟨true, Finmap.lookup_insert _⟩
    · rw [← List.concat_eq_append]
      exact h.nodup.concat hnew
  · simp only [hid, ↓reduceIte]
    exact ⟨h.seated, h.known_insert id true, h.nodup⟩

theorem WellFormed.start (h : g.WellFormed) (hl : 1 < g.playerList.length) :
    (g.start lib out count).1.WellFormed := by
  have hperm := start_perm lib g out count
  refine ⟨fun _ => ?_, fun p hp => h.known p (hperm.mem_iff.1 hp), hperm.nodup_iff.2 h.nodup⟩
  rw [hperm.length_eq]
  exact hl

theorem WellFormed.moves (h : g.WellFormed) (hm : Relation.ReflTransGen (MoveStep lib) g g') :
    g'.WellFormed := by
  induction hm with
  | refl => exact h
  | tail _ hm ih =>
    cases hm with
    | make => exact ih.of_eq rfl rfl rfl

theorem WellFormed.advance (h : g.WellFormed) : (g.advance lib out deltaTime).1.WellFormed := by
  rw [advance_eq, runClock_eq]
  exact h.of_eq rfl rfl rfl

theorem CallStep.wellFormed {c : TicTacToeCall} (hc : CallStep lib g c g') (h : g.WellFormed) :
    g'.WellFormed := by
  cases hc with
  | connect id => exact h.connect id
  | disconnect id => exact ⟨h.seated, h.known_insert id false, h.nodup⟩
  | update hu =>
    cases hu with
    | idle => exact h
    | start hidle hv hl => exact h.start hl
    | run hs ho hm => exact h.advance.moves hm

end WellFormed

end TicTacToeGame

theorem ticTacToe_wellFormed {lib : JsonLibrary} :
    (ticTacToe lib).Invariant TicTacToeGame.WellFormed where
  init := by
    intro g hinit
    obtain ⟨msg, rfl⟩ := hinit
    exact .construct msg
  step := by
    rintro g c g' _ hw ⟨out, out', h⟩
    exact (TicTacToeGame.call_cases h).wellFormed hw

end WebGameServer
