import WebGameServer.Library.Lines
import WebGameServer.TicTacToe.Board

namespace WebGameServer
set_option autoImplicit true

namespace TicTacToeBoard

def cell (b : TicTacToeBoard) (c : Fin 3 × Fin 3) : Int := b.getValue c.1 c.2

/-- The lines of the board. -/
inductive IsLine : (Fin 3 → Fin 3 × Fin 3) → Prop where
  | column (x : Fin 3) : IsLine fun i => (x, i)
  | row (y : Fin 3) : IsLine fun i => (i, y)
  | diagonal : IsLine fun i => (i, i)
  | antiDiagonal : IsLine fun i => (i, i.rev)

/-- A full scan of the board finds a line with the value. -/
def HasLine (b : TicTacToeBoard) (s : Int) : Prop := ∃ line, IsLine line ∧ Filled b.cell line s

section Move

variable {b : TicTacToeBoard} {x y : Fin 3} {s : Int}

theorem cell_setValue (b : TicTacToeBoard) (x y : Fin 3) (s : Int) :
    (b.setValue x y s).cell = Function.update b.cell (x, y) s := by
  funext c
  obtain ⟨i, j⟩ := c
  simp only [cell, getValue, setValue, Vector.getElem_set]
  by_cases h : (i, j) = (x, y)
  · cases h
    rw [Function.update_self, if_pos rfl]
  · have hindex : ¬ x.val + 3 * y.val = i.val + 3 * j.val := by
      intro he
      apply h
      apply Prod.ext <;> apply Fin.ext <;> dsimp only <;> omega
    rw [Function.update_of_ne h, if_neg hindex]
    rfl

theorem isFull_iff {line : Fin 3 → Fin 3 × Fin 3} :
    b.isFull s line = true ↔ Filled b.cell line s := by
  rw [isFull, decide_eq_true_iff]
  rfl

theorem exists_line_through_iff {P : (Fin 3 → Fin 3 × Fin 3) → Prop} :
    (∃ line, IsLine line ∧ (∃ i, line i = (x, y)) ∧ P line) ↔
      P (fun i => (x, i)) ∨ P (fun i => (i, y)) ∨ (x = y ∧ P fun i => (i, i)) ∨
        (x.val + y.val = 2 ∧ P fun i => (i, i.rev)) := by
  constructor
  · rintro ⟨line, hline, ⟨i, hi⟩, hp⟩
    cases hline with
    | column x' =>
      cases hi
      exact .inl hp
    | row y' =>
      cases hi
      exact .inr (.inl hp)
    | diagonal =>
      cases hi
      exact .inr (.inr (.inl ⟨rfl, hp⟩))
    | antiDiagonal =>
      cases hi
      refine .inr (.inr (.inr ⟨?_, hp⟩))
      rw [Fin.val_rev]
      omega
  · rintro (hp | hp | ⟨rfl, hp⟩ | ⟨hxy, hp⟩)
    · exact ⟨_, .column x, ⟨y, rfl⟩, hp⟩
    · exact ⟨_, .row y, ⟨x, rfl⟩, hp⟩
    · exact ⟨_, .diagonal, ⟨x, rfl⟩, hp⟩
    · have hy : x.rev = y := by
        apply Fin.ext
        rw [Fin.val_rev]
        omega
      exact ⟨_, .antiDiagonal, ⟨x, by rw [hy]⟩, hp⟩

theorem move_eq (b : TicTacToeBoard) (x y : Fin 3) (s : Int) :
    b.move x y s =
      { b.setValue x y s with
        moveCount := b.moveCount + 1
        state := (b.move x y s).state } := by
  simp only [move]
  split
  · rfl
  · split
    · rfl
    · split
      · rfl
      · split <;> rfl

theorem cell_move (b : TicTacToeBoard) (x y : Fin 3) (s : Int) :
    (b.move x y s).cell = Function.update b.cell (x, y) s := by
  rw [move_eq]
  exact cell_setValue b x y s

theorem state_move (b : TicTacToeBoard) (x y : Fin 3) (s : Int) :
    (b.move x y s).state = s ∧
        (∃ line, IsLine line ∧ (∃ i, line i = (x, y)) ∧ Filled (b.move x y s).cell line s) ∨
      (b.move x y s).state = b.state ∧
        ¬ ∃ line, IsLine line ∧ (∃ i, line i = (x, y)) ∧ Filled (b.move x y s).cell line s := by
  rw [exists_line_through_iff, cell_move, ← cell_setValue]
  simp only [← isFull_iff]
  have hmoved (line : Fin 3 → Fin 3 × Fin 3) :
      isFull { b.setValue x y s with moveCount := b.moveCount + 1 } s line =
        (b.setValue x y s).isFull s line := rfl
  have hcount : (b.setValue x y s).moveCount = b.moveCount := rfl
  simp only [move, hcount, hmoved]
  by_cases hcolumn : (b.setValue x y s).isFull s (fun i => (x, i)) = true
  · exact .inl ⟨by rw [if_pos hcolumn], .inl hcolumn⟩
  rw [if_neg hcolumn]
  by_cases hrow : (b.setValue x y s).isFull s (fun i => (i, y)) = true
  · exact .inl ⟨by rw [if_pos hrow], .inr (.inl hrow)⟩
  rw [if_neg hrow]
  by_cases hdiagonal : x = y ∧ (b.setValue x y s).isFull s (fun i => (i, i)) = true
  · exact .inl ⟨by rw [if_pos hdiagonal], .inr (.inr (.inl hdiagonal))⟩
  rw [if_neg hdiagonal]
  by_cases hanti : x.val + y.val = 2 ∧ (b.setValue x y s).isFull s (fun i => (i, i.rev)) = true
  · exact .inl ⟨by rw [if_pos hanti], .inr (.inr (.inr hanti))⟩
  rw [if_neg hanti]
  refine .inr ⟨rfl, ?_⟩
  rintro (h | h | h | h)
  · exact hcolumn h
  · exact hrow h
  · exact hdiagonal h
  · exact hanti h

def Scanned (b : TicTacToeBoard) : Prop := ∀ s, s ≠ emptyVal → (b.state = s ↔ b.HasLine s)

/-- While there is no line, the lines through the cell of a move stand for all of them. -/
theorem Scanned.move (h : b.Scanned) (hb : b.state = 0) : (b.move x y s).Scanned := by
  have hblank : ∀ line w, IsLine line → Filled b.cell line w → w = emptyVal := by
    intro line w hline hf
    by_contra hw
    have hstate := (h w hw).2 ⟨line, hline, hf⟩
    exact hw (hstate.symm.trans hb)
  intro w hw
  have hlines := exists_filled_update_iff (c := (x, y)) (v := s) hblank hw
  rw [← cell_move] at hlines
  rw [HasLine, hlines]
  rcases b.state_move x y s with ⟨he, hline⟩ | ⟨he, hno⟩
  · rw [he]
    exact ⟨fun hsw => ⟨hsw.symm, hline⟩, fun hsw => hsw.1.symm⟩
  · rw [he, hb]
    exact ⟨fun h0 => (hw h0.symm).elim, fun hsw => (hno hsw.2).elim⟩

theorem cell_start (c : Fin 3 × Fin 3) : start.cell c = emptyVal := by
  simp only [cell, getValue, start, Vector.getElem_replicate]
  rfl

theorem start_scanned : start.Scanned := by
  intro s hs
  constructor
  · intro h
    exact (hs h.symm).elim
  · rintro ⟨line, -, hf⟩
    exact (hs ((hf 0).symm.trans (cell_start _))).elim

end Move

/-- The moves played one after the other, with the values of the players in turn; `none` if one
of them is refused. -/
def replay : List (UInt32 × UInt32) → TicTacToeBoard → Fin 2 → Option TicTacToeBoard
  | [], b, _ => some b
  | (i, j) :: moves, b, player =>
    match b.addMove i j (boardValues player) with
    | (true, b) => replay moves b (player + 1)
    | (false, _) => none

/-- The boards that moves lead to while the game is not done, with the player to move. -/
inductive Played : List (UInt32 × UInt32) → Fin 2 → TicTacToeBoard → Prop where
  | start : Played [] 0 .start
  | move {moves : List (UInt32 × UInt32)} {player : Fin 2} {b b' : TicTacToeBoard}
      {i j : UInt32} : Played moves player b → b.isDone = false →
      b.addMove i j (boardValues player) = (true, b') →
      Played (moves ++ [(i, j)]) (player + 1) b'

section Played

variable {moves : List (UInt32 × UInt32)} {player : Fin 2} {b : TicTacToeBoard}

theorem boardValues_ne_emptyVal (player : Fin 2) : boardValues player ≠ emptyVal := by
  revert player
  decide

theorem Played.replay_append (h : Played moves player b) (rest : List (UInt32 × UInt32)) :
    replay (moves ++ rest) .start 0 = replay rest b player := by
  induction h generalizing rest with
  | start => rfl
  | move h hd hadd ih =>
    rw [List.append_assoc, ih, List.cons_append, replay, hadd]
    rfl

theorem Played.replay_eq (h : Played moves player b) : replay moves .start 0 = some b := by
  have hreplay := h.replay_append []
  rwa [List.append_nil] at hreplay

theorem Played.turn (h : Played moves player b) : player.val = moves.length % 2 := by
  induction h with
  | start => rfl
  | move h hd hadd ih =>
    rw [List.length_append, List.length_singleton, Fin.val_add, ih]
    omega

theorem Played.scanned (h : Played moves player b) : b.Scanned := by
  induction h with
  | start => exact start_scanned
  | @move moves player b b' i j h hd hadd ih =>
    obtain ⟨x, y, -, -, -, rfl⟩ := addMove_eq_true.1 hadd
    exact ih.move (isDone_eq_false_iff.1 hd).2

theorem Played.state_cases (h : Played moves player b) :
    b.state = 0 ∨ ∃ player, b.state = boardValues player := by
  induction h with
  | start => exact .inl rfl
  | @move moves player b b' i j h hd hadd ih =>
    obtain ⟨x, y, -, -, -, rfl⟩ := addMove_eq_true.1 hadd
    rcases b.state_move x y (boardValues player) with ⟨he, -⟩ | ⟨he, -⟩
    · exact .inr ⟨player, he⟩
    · rw [he]
      exact ih

theorem Played.mem_iff (h : Played moves player b) (x y : Fin 3) :
    b.getValue x y ≠ emptyVal ↔ ∃ m ∈ moves, m.1.toNat = x.val ∧ m.2.toNat = y.val := by
  induction h with
  | start =>
    constructor
    · intro hne
      exact (hne (cell_start (x, y))).elim
    · rintro ⟨m, hm, -⟩
      cases hm
  | @move moves player b b' i j h hd hadd ih =>
    obtain ⟨x', y', hx, hy, -, rfl⟩ := addMove_eq_true.1 hadd
    have hcell : (b.move x' y' (boardValues player)).getValue x y =
        Function.update b.cell (x', y') (boardValues player) (x, y) :=
      congrFun (b.cell_move x' y' (boardValues player)) (x, y)
    rw [hcell]
    by_cases hxy : (x, y) = (x', y')
    · cases hxy
      rw [Function.update_self]
      constructor
      · intro _
        exact ⟨(i, j), List.mem_append_right _ List.mem_cons_self, hx, hy⟩
      · intro _
        exact boardValues_ne_emptyVal player
    · rw [Function.update_of_ne hxy]
      have hother : ¬ (i.toNat = x.val ∧ j.toNat = y.val) := by
        rintro ⟨hi, hj⟩
        apply hxy
        apply Prod.ext
        · exact Fin.ext (hi.symm.trans hx)
        · exact Fin.ext (hj.symm.trans hy)
      change b.getValue x y ≠ emptyVal ↔ _
      rw [ih]
      simp only [List.mem_append, List.mem_singleton, or_and_right, exists_or, exists_eq_left,
        hother, or_false]

theorem Played.distinct (h : Played moves player b) :
    moves.Nodup ∧ ∀ m ∈ moves, m.1.toNat < 3 ∧ m.2.toNat < 3 := by
  induction h with
  | start => exact ⟨.nil, List.forall_mem_nil _⟩
  | @move moves player b b' i j h hd hadd ih =>
    obtain ⟨x, y, hx, hy, he, -⟩ := addMove_eq_true.1 hadd
    obtain ⟨hnodup, hinside⟩ := ih
    have hnew : (i, j) ∉ moves := by
      intro hm
      exact (h.mem_iff x y).2 ⟨(i, j), hm, hx, hy⟩ he
    constructor
    · rw [← List.concat_eq_append]
      exact hnodup.concat hnew
    · intro m hm
      rcases List.mem_append.1 hm with hm | hm
      · exact hinside m hm
      · rw [List.mem_singleton.1 hm]
        exact ⟨hx ▸ x.isLt, hy ▸ y.isLt⟩

end Played

end TicTacToeBoard

end WebGameServer
