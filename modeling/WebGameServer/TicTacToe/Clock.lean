import Mathlib.Tactic.NormNum
import WebGameServer.TicTacToe.Calls

namespace WebGameServer
set_option autoImplicit true

namespace TicTacToeGame

/-- The clock of the player to move has ended the game. -/
def EndedByClock (g : TicTacToeGame) (i : Fin 2) : Prop :=
  g.gameOver = true ∧ i = g.turn ∧ g.times i = 0

/-- `get_state` reports that the player with the index `j` has won, with the sign that a line of
that player on the board has. -/
def ReportsWin (g : TicTacToeGame) (j : Fin 2) : Prop :=
  g.getState.key "state" = .value (.numberInteger (.ofInt (boardValues j))) ∧
    (g.getState.key "scores" >>= fun scores => scores.index j.val) = .value (.numberFloat 1) ∧
    (g.getState.key "scores" >>= fun scores => scores.index (1 - j).val) =
      .value (.numberFloat 0)

def TimeoutLoses (g : TicTacToeGame) : Prop := ∀ i, g.EndedByClock i → g.ReportsWin (1 - i)

/-- No update once the game is done and no negative times. -/
def Admissible (g : TicTacToeGame) : TicTacToeCall → Prop
  | .update _ deltaTime _ => g.isDone = false ∧ 0 ≤ deltaTime
  | _ => True

/-- The player to move has more time left than the update takes. -/
def KeepsTime (g : TicTacToeGame) : TicTacToeCall → Prop
  | .update _ deltaTime _ => g.started = true → deltaTime < g.times g.turn
  | _ => True

end TicTacToeGame

open TicTacToeGame

/-- The games that the game server plays: valid ones, which are updated until they are done. -/
def timedGame (lib : JsonLibrary) : LTS TicTacToeGame TicTacToeCall where
  init g := (ticTacToe lib).init g ∧ g.valid = true
  step g c g' := (ticTacToe lib).step g c g' ∧ g.Admissible c

namespace TicTacToeGame

/-- While the game goes on both clocks run. The clock that ends it belongs to the player to move,
whose value becomes the state. -/
structure Clocked (g : TicTacToeGame) : Prop where
  running : g.gameOver = false → g.state = 0 ∧ ∀ i, 0 < g.times i
  ended : g.gameOver = true →
    g.board.state = 0 ∧ g.times g.turn = 0 ∧ g.state = boardValues g.turn

variable {lib : JsonLibrary} {g g' : TicTacToeGame} {out : List TicTacToeMessage}
  {deltaTime count : Int} {c : TicTacToeCall}

theorem player_cases (i : Fin 2) : i = 0 ∨ i = 1 := by
  revert i
  decide

theorem boardValues_opponent (i : Fin 2) :
    Int64.ofInt (boardValues i) ≠ Int64.ofInt (boardValues (1 - i)) := by
  revert i
  decide

theorem getState_state (g : TicTacToeGame) :
    g.getState.key "state" = .value (.numberInteger (.ofInt g.totalState)) := rfl

theorem getState_scores (g : TicTacToeGame) :
    g.getState.key "scores" = .value (.array [.numberFloat (1 / 2 + 1 / 2 * g.totalState),
      .numberFloat (1 / 2 - 1 / 2 * g.totalState)]) := rfl

theorem reportsWin_of_totalState {j : Fin 2} (h : g.totalState = boardValues j) :
    g.ReportsWin j := by
  simp only [ReportsWin, getState_state, getState_scores, h, Outcome.value_bind, true_and]
  obtain rfl | rfl := player_cases j
  · have hwinner : (1 / 2 + 1 / 2 * (boardValues 0 : ℤ) : ℚ) = 1 := by norm_num [boardValues]
    have hloser : (1 / 2 - 1 / 2 * (boardValues 0 : ℤ) : ℚ) = 0 := by norm_num [boardValues]
    rw [hwinner, hloser]
    exact ⟨rfl, rfl⟩
  · have hwinner : (1 / 2 - 1 / 2 * (boardValues 1 : ℤ) : ℚ) = 1 := by norm_num [boardValues]
    have hloser : (1 / 2 + 1 / 2 * (boardValues 1 : ℤ) : ℚ) = 0 := by norm_num [boardValues]
    rw [hwinner, hloser]
    exact ⟨rfl, rfl⟩

theorem not_reportsWin {j : Fin 2} (h : g.totalState = boardValues j) :
    ¬ g.ReportsWin (1 - j) := by
  intro hr
  have hs := hr.1
  rw [getState_state, h] at hs
  injection hs with hs
  injection hs with hs
  exact boardValues_opponent j hs

theorem runClock_left (hc : ∀ i, 0 < g.times i) (h : deltaTime < g.times g.turn) :
    (g.runClock deltaTime).gameOver = g.gameOver ∧ (g.runClock deltaTime).state = g.state ∧
      ∀ i, 0 < (g.runClock deltaTime).times i := by
  have hpos : ∀ i, 0 < Function.update g.times g.turn (g.times g.turn - deltaTime) i := by
    intro i
    by_cases hi : i = g.turn
    · rw [hi, Function.update_self]
      omega
    · rw [Function.update_of_ne hi]
      exact hc i
  have h0 := not_le.2 (hpos 0)
  have h1 := not_le.2 (hpos 1)
  simp only [runClock, List.foldl_cons, List.foldl_nil, checkTime, h0, h1, ↓reduceIte, true_and]
  exact hpos

theorem runClock_out (hc : ∀ i, 0 < g.times i) (h : g.times g.turn ≤ deltaTime) :
    (g.runClock deltaTime).gameOver = true ∧
      (g.runClock deltaTime).state = boardValues g.turn ∧
      (g.runClock deltaTime).times g.turn = 0 := by
  have hout : g.times g.turn - deltaTime ≤ 0 := by omega
  have h0 := not_le.2 (hc 0)
  have h1 := not_le.2 (hc 1)
  obtain ht | ht := player_cases g.turn
  · rw [ht] at hout
    simp [runClock, checkTime, ht, hout, h1]
  · rw [ht] at hout
    simp [runClock, checkTime, ht, hout, h0]

theorem moves_of_done (hd : g.isDone = true) (hm : Relation.ReflTransGen (MoveStep lib) g g') :
    g' = g := by
  induction hm with
  | refl => rfl
  | tail _ hm ih =>
    subst ih
    cases hm with
    | make _ _ _ hd' => cases hd.symm.trans hd'

theorem moves_clock (hm : Relation.ReflTransGen (MoveStep lib) g g') :
    g'.times = g.times ∧ g'.state = g.state ∧ g'.gameOver = g.gameOver := by
  induction hm with
  | refl => exact ⟨rfl, rfl, rfl⟩
  | tail _ hm ih =>
    cases hm with
    | make => exact ih

theorem Clocked.construct (msg : Json) : (TicTacToeGame.construct msg).Clocked :=
  ⟨fun _ => ⟨rfl, fun _ => (by decide : (0 : Int) < 100000)⟩, nofun⟩

theorem Clocked.of_eq (h : g.Clocked) (hb : g'.board = g.board) (hu : g'.turn = g.turn)
    (hs : g'.state = g.state) (ht : g'.times = g.times) (ho : g'.gameOver = g.gameOver) :
    g'.Clocked where
  running := by
    rw [ho, hs, ht]
    exact h.running
  ended := by
    rw [ho, hb, hu, hs, ht]
    exact h.ended

/-- An update whose time the clock of the player to move does not have left ends the game. -/
theorem Clocked.run_out (h : g.Clocked) (hd : g.isDone = false)
    (ht : g.times g.turn ≤ deltaTime)
    (hm : Relation.ReflTransGen (MoveStep lib) (g.advance lib out deltaTime).1 g') :
    g'.gameOver = true ∧ g'.Clocked := by
  obtain ⟨hb, ho⟩ := isDone_eq_false hd
  obtain ⟨hover, hstate, htime⟩ := runClock_out (h.running ho).2 ht
  have hadvance := g.advance_eq lib out deltaTime
  have hover' : (g.advance lib out deltaTime).1.gameOver = true := by rw [hadvance, hover]
  have hdone : (g.advance lib out deltaTime).1.isDone = true := by
    rw [isDone, hover', Bool.or_true]
  rw [moves_of_done hdone hm]
  refine ⟨hover', fun hf => ?_, fun _ => ?_⟩
  · rw [hover'] at hf
    cases hf
  · rw [hadvance, runClock_eq]
    exact ⟨(TicTacToeBoard.isDone_eq_false_iff.1 hb).2, htime, hstate⟩

theorem Clocked.run_left (h : g.Clocked) (hd : g.isDone = false)
    (ht : deltaTime < g.times g.turn)
    (hm : Relation.ReflTransGen (MoveStep lib) (g.advance lib out deltaTime).1 g') :
    g'.gameOver = false ∧ g'.Clocked := by
  obtain ⟨-, ho⟩ := isDone_eq_false hd
  obtain ⟨hstate0, hpos⟩ := h.running ho
  obtain ⟨hover, hstate, htimes⟩ := runClock_left hpos ht
  obtain ⟨ht', hs', ho'⟩ := moves_clock hm
  rw [advance_eq] at ht' hs' ho'
  have hover' : g'.gameOver = false := by rw [ho', hover, ho]
  refine ⟨hover', fun _ => ⟨?_, ?_⟩, fun hf => ?_⟩
  · rw [hs', hstate, hstate0]
  · rw [ht']
    exact htimes
  · rw [hover'] at hf
    cases hf

theorem Clocked.call (h : g.Clocked) (hc : CallStep lib g c g') (ha : g.Admissible c) :
    g'.Clocked := by
  cases hc with
  | connect id => exact h.of_eq rfl rfl rfl rfl rfl
  | disconnect id => exact h.of_eq rfl rfl rfl rfl rfl
  | @update out msgs deltaTime count g₁ hu =>
    cases hu with
    | idle => exact h
    | start => exact h.of_eq rfl rfl rfl rfl rfl
    | run hs ho hm =>
      rcases lt_or_ge deltaTime (g.times g.turn) with ht | ht
      · exact (h.run_left ha.1 ht hm).2
      · exact (h.run_out ha.1 ht hm).2

theorem timedGame_clocked : (timedGame lib).Invariant Clocked where
  init := by
    rintro g ⟨⟨msg, rfl⟩, -⟩
    exact .construct msg
  step := by
    rintro g c g' _ hg ⟨⟨out, out', h⟩, ha⟩
    exact hg.call (call_cases h) ha

theorem gameOver_of_run {ls : List TicTacToeCall} (hr : (timedGame lib).Run g ls g')
    (ho : g.gameOver = true) : g'.gameOver = true := by
  induction hr with
  | nil => exact ho
  | cons hs hr ih =>
    obtain ⟨⟨out, out', h⟩, ha⟩ := hs
    apply ih
    cases call_cases h with
    | connect | disconnect => exact ho
    | update hu =>
      have hf := (isDone_eq_false ha.1).2
      rw [ho] at hf
      cases hf

theorem Clocked.totalState_eq (h : g.Clocked) (ho : g.gameOver = true) :
    g.totalState = boardValues g.turn := by
  obtain ⟨hb, -, hs⟩ := h.ended ho
  rw [totalState, hb, hs, Int.zero_add]

theorem timeoutLoses_iff (h : g.Clocked) : g.TimeoutLoses ↔ g.gameOver = false := by
  constructor
  · intro hl
    cases ho : g.gameOver with
    | false => rfl
    | true =>
      obtain ⟨-, ht, -⟩ := h.ended ho
      exact (not_reportsWin (h.totalState_eq ho) (hl g.turn ⟨ho, rfl, ht⟩)).elim
  · rintro ho i ⟨ho', -⟩
    rw [ho] at ho'
    cases ho'

theorem keepsTime_of_idle {msgs : List TicTacToeMessage} (ho : g.gameOver = false)
    (hidle : g.started = false ∨ g.gameOver = true) :
    g.KeepsTime (.update msgs deltaTime count) := by
  intro hs
  rcases hidle with hs' | ho'
  · cases hs.symm.trans hs'
  · cases ho.symm.trans ho'

/-- A step ends the game by the clock exactly if the time it takes is not left. -/
theorem Clocked.keepsTime_iff (h : g.Clocked) (ho : g.gameOver = false)
    (hc : CallStep lib g c g') (ha : g.Admissible c) : g'.gameOver = false ↔ g.KeepsTime c := by
  cases hc with
  | connect id => exact ⟨fun _ => trivial, fun _ => ho⟩
  | disconnect id => exact ⟨fun _ => trivial, fun _ => ho⟩
  | update hu =>
    cases hu with
    | idle hidle => exact ⟨fun _ => keepsTime_of_idle ho hidle, fun _ => ho⟩
    | start hidle => exact ⟨fun _ => keepsTime_of_idle ho hidle, fun _ => ho⟩
    | run hs _ hm =>
      constructor
      · intro ho' _
        by_contra ht
        have hover := (h.run_out ha.1 (not_lt.1 ht) hm).1
        cases ho'.symm.trans hover
      · exact fun hk => (h.run_left ha.1 (hk hs) hm).1

theorem run_keepsTime {ls : List TicTacToeCall} (h : g.Clocked) (ho : g.gameOver = false)
    (hr : (timedGame lib).Run g ls g') (ho' : g'.gameOver = false) :
    ((timedGame lib).restrict fun u c _ => u.KeepsTime c).Run g ls g' := by
  induction hr with
  | nil => exact .nil
  | @cons g c g₁ ls g' hs hr ih =>
    obtain ⟨⟨out, out', hcall⟩, ha⟩ := hs
    have hc := call_cases hcall
    have ho₁ : g₁.gameOver = false := by
      by_contra hne
      have hover := gameOver_of_run hr (Bool.eq_true_of_not_eq_false hne)
      cases ho'.symm.trans hover
    have hk := (h.keepsTime_iff ho hc ha).1 ho₁
    exact .cons ⟨⟨⟨out, out', hcall⟩, ha⟩, hk⟩ (ih (h.call hc ha) ho₁ ho')

theorem gameOver_of_keepsTime {ls : List TicTacToeCall} (h : g.Clocked)
    (ho : g.gameOver = false)
    (hr : ((timedGame lib).restrict fun u c _ => u.KeepsTime c).Run g ls g') :
    g'.gameOver = false := by
  induction hr with
  | nil => exact ho
  | cons hs hr ih =>
    obtain ⟨⟨⟨out, out', hcall⟩, ha⟩, hk⟩ := hs
    have hc := call_cases hcall
    exact ih (h.call hc ha) ((h.keepsTime_iff ho hc ha).2 hk)

/-- A player who runs out of time is reported as the winner. So a player who runs out of time
loses exactly in the runs in which no clock runs out. -/
theorem timeout_loses_iff {g₀ : TicTacToeGame} {ls : List TicTacToeCall}
    (h₀ : (timedGame lib).init g₀) (hr : (timedGame lib).Run g₀ ls g) :
    (g.TimeoutLoses ↔
      ((timedGame lib).restrict fun u c _ => u.KeepsTime c).Run g₀ ls g) ∧
    ∀ i, g.EndedByClock i → g.ReportsWin i ∧ ¬ g.ReportsWin (1 - i) := by
  have h := timedGame_clocked.reachable (.init h₀)
  have hg := timedGame_clocked.reachable ((LTS.Reachable.init h₀).run hr)
  have ho : g₀.gameOver = false := by
    obtain ⟨⟨msg, rfl⟩, -⟩ := h₀
    rfl
  constructor
  · rw [timeoutLoses_iff hg]
    exact ⟨run_keepsTime h ho hr, gameOver_of_keepsTime h ho⟩
  · rintro i ⟨ho', rfl, -⟩
    have htotal := hg.totalState_eq ho'
    exact ⟨reportsWin_of_totalState htotal, not_reportsWin htotal⟩

/-- Players 1 and 2 play for two updates and no clock runs out. -/
theorem timeout_loses_iff_two_updates :
    ∃ g₀ g, (timedGame sampleLibrary).init g₀ ∧
      (timedGame sampleLibrary).Run g₀
        [.connect 1, .connect 2, .update [] 0 1, .update [] 100 1] g ∧
      g.times 0 = 99900 ∧ g.TimeoutLoses := by
  have h0 : (timedGame sampleLibrary).init
      (TicTacToeGame.construct (.object [("matched", .boolean true)])) := ⟨⟨_, rfl⟩, rfl⟩
  have hr : ((timedGame sampleLibrary).restrict fun u c _ => u.KeepsTime c).Run
      (TicTacToeGame.construct (.object [("matched", .boolean true)]))
      [.connect 1, .connect 2, .update [] 0 1, .update [] 100 1] _ :=
    .cons ⟨⟨⟨[], _, rfl⟩, trivial⟩, trivial⟩ <| .cons ⟨⟨⟨[], _, rfl⟩, trivial⟩, trivial⟩ <|
    .cons ⟨⟨⟨[], _, rfl⟩, rfl, by decide⟩, fun _ => by decide⟩ <|
    .cons ⟨⟨⟨[], _, rfl⟩, rfl, by decide⟩, fun _ => by decide⟩ .nil
  exact ⟨_, _, h0, hr.of_restrict, rfl, (timeout_loses_iff h0 hr.of_restrict).1.2 hr⟩

/-- The first player lets 100 seconds pass and is reported as the winner. -/
theorem first_player_times_out :
    ∃ g₀ g, (timedGame sampleLibrary).init g₀ ∧
      (timedGame sampleLibrary).Run g₀
        [.connect 1, .connect 2, .update [] 0 1, .update [] 100000 1] g ∧
      g.EndedByClock 0 ∧ g.ReportsWin 0 ∧ ¬ g.TimeoutLoses := by
  have h0 : (timedGame sampleLibrary).init
      (TicTacToeGame.construct (.object [("matched", .boolean true)])) := ⟨⟨_, rfl⟩, rfl⟩
  have hr : (timedGame sampleLibrary).Run
      (TicTacToeGame.construct (.object [("matched", .boolean true)]))
      [.connect 1, .connect 2, .update [] 0 1, .update [] 100000 1] _ :=
    .cons ⟨⟨[], _, rfl⟩, trivial⟩ <| .cons ⟨⟨[], _, rfl⟩, trivial⟩ <|
    .cons ⟨⟨[], _, rfl⟩, rfl, by decide⟩ <| .cons ⟨⟨[], _, rfl⟩, rfl, by decide⟩ .nil
  refine ⟨_, _, h0, hr, ⟨rfl, rfl, rfl⟩, reportsWin_of_totalState rfl, fun hl => ?_⟩
  exact not_reportsWin rfl (hl 0 ⟨rfl, rfl, rfl⟩)

end TicTacToeGame

end WebGameServer
