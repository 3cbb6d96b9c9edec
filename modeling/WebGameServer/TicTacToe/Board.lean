import Mathlib.Data.Fintype.Basic

namespace WebGameServer
set_option autoImplicit true

instance players_neZero : @NeZero Nat Zero.ofOfNat0 2 := ⟨by decide⟩

/-- `BOARD_VALUES`: what the first and the second player put on the board. -/
def boardValues (player : Fin 2) : Int := if player = 0 then 1 else -1

/-- `EMPTY_VAL`. -/
def emptyVal : Int := 0

structure TicTacToeBoard where
  board : Vector Int 9
  state : Int
  moveCount : Nat
  deriving DecidableEq

namespace TicTacToeBoard

def start : TicTacToeBoard := ⟨.replicate 9 0, 0, 0⟩

def getValue (b : TicTacToeBoard) (i j : Fin 3) : Int := b.board[i.val + 3 * j.val]

def setValue (b : TicTacToeBoard) (i j : Fin 3) (s : Int) : TicTacToeBoard :=
  { b with board := b.board.set (i.val + 3 * j.val) s }

/-- The loop that finds three cells with the value `s`. -/
def isFull (b : TicTacToeBoard) (s : Int) (line : Fin 3 → Fin 3 × Fin 3) : Bool :=
  decide (∀ i, b.getValue (line i).1 (line i).2 = s)

/-- Sets a cell and looks at the lines through it. -/
def move (b : TicTacToeBoard) (x y : Fin 3) (s : Int) : TicTacToeBoard :=
  let b := b.setValue x y s
  let b := { b with moveCount := b.moveCount + 1 }
  if b.isFull s fun i => (x, i) then
    { b with state := s }
  else if b.isFull s fun i => (i, y) then
    { b with state := s }
  else if x = y ∧ b.isFull s fun i => (i, i) then
    { b with state := s }
  else if x.val + y.val = 2 ∧ b.isFull s fun i => (i, i.rev) then
    { b with state := s }
  else b

def addMove (b : TicTacToeBoard) (i j : UInt32) (value : Int) : Bool × TicTacToeBoard :=
  if h : i.toNat < 3 ∧ j.toNat < 3 then
    if b.getValue ⟨i.toNat, h.1⟩ ⟨j.toNat, h.2⟩ ≠ emptyVal then (false, b)
    else (true, b.move ⟨i.toNat, h.1⟩ ⟨j.toNat, h.2⟩ value)
  else (false, b)

def isDone (b : TicTacToeBoard) : Bool := b.moveCount == 9 || b.state != 0

theorem isDone_eq_false_iff {b : TicTacToeBoard} :
    b.isDone = false ↔ b.moveCount ≠ 9 ∧ b.state = 0 := by
  simp only [isDone, Bool.or_eq_false_iff, beq_eq_false_iff_ne, bne_eq_false_iff_eq]

theorem addMove_eq_true {b b' : TicTacToeBoard} {i j : UInt32} {value : Int} :
    b.addMove i j value = (true, b') ↔
      ∃ x y : Fin 3, i.toNat = x ∧ j.toNat = y ∧ b.getValue x y = emptyVal ∧
        b' = b.move x y value := by
  constructor
  · intro h
    simp only [addMove] at h
    split at h
    · next hr =>
      split at h
      · cases h
      · next he =>
        cases h
        exact ⟨⟨i.toNat, hr.1⟩, ⟨j.toNat, hr.2⟩, rfl, rfl, not_not.1 he, rfl⟩
    · cases h
  · rintro ⟨x, y, hx, hy, he, rfl⟩
    have hr : i.toNat < 3 ∧ j.toNat < 3 := ⟨hx ▸ x.isLt, hy ▸ y.isLt⟩
    have hx' : (⟨i.toNat, hr.1⟩ : Fin 3) = x := Fin.ext hx
    have hy' : (⟨j.toNat, hr.2⟩ : Fin 3) = y := Fin.ext hy
    simp only [addMove, dif_pos hr, hx', hy', he, ne_eq, not_true_eq_false, ↓reduceIte]

end TicTacToeBoard

end WebGameServer
