import WebGameServer.TicTacToe.HostileMessages
import WebGameServer.TicTacToe.Lines

namespace WebGameServer
set_option autoImplicit true

namespace TicTacToeGame

/-- The conversion of a recorded move to two values of type `unsigned int`. -/
def coordinates (lib : JsonLibrary) (move : Json) : Outcome JsonException (UInt32 × UInt32) := do
  let i ← (← move.index 0).getUnsigned lib
  let j ← (← move.index 1).getUnsigned lib
  return (i, j)

/-- A message that was recorded as a move, with the game at that moment. -/
structure MoveRecord where
  message : TicTacToeMessage
  game : TicTacToeGame

/-- The messages that extend `m_move_list` when they are read one after the other. -/
def records (lib : JsonLibrary) (s : TicTacToeGame × List TicTacToeMessage) :
    List TicTacToeMessage → List MoveRecord
  | [] => []
  | msg :: msgs =>
    match takeMessage lib s msg with
    | .value s' =>
      (if s'.1.moveList.length = s.1.moveList.length then [] else [⟨msg, s.1⟩]) ++
        records lib s' msgs
    | _ => []

def callRecords (lib : JsonLibrary) (g : TicTacToeGame) (out : List TicTacToeMessage) :
    TicTacToeCall → List MoveRecord
  | .update msgs deltaTime _ =>
    if g.started && !g.gameOver then records lib (g.advance lib out deltaTime) msgs else []
  | _ => []

/-- The observer notes the messages that are recorded as moves. -/
def NotesMoves (lib : JsonLibrary) (g : TicTacToeGame) (c : TicTacToeCall) (g' : TicTacToeGame)
    (notes : List MoveRecord) : Prop :=
  ∃ out out', g.call lib out c = .value (g', out') ∧ notes = g.callRecords lib out c

/-- `update` is not called once the game is done. -/
def Undone (g : TicTacToeGame) : TicTacToeCall → Prop
  | .update _ _ _ => g.isDone = false
  | _ => True

/-- Each move comes from a message of the player to move, to a game that is not done and has the
moves before it. -/
inductive Recorded (lib : JsonLibrary) : List MoveRecord → List Json → Prop where
  | nil : Recorded lib [] []
  | move {notes : List MoveRecord} {moves : List Json} {r : MoveRecord} {data move : Json} :
      Recorded lib notes moves → r.game.moveList = moves → r.game.isDone = false →
      r.game.playerList[r.game.turn.val]? = some r.message.1 →
      lib.parse r.message.2 = some data → data.key "move" = .value move →
      Recorded lib (notes ++ [r]) (moves ++ [move])

/-- The state is that of the replay of the moves. -/
structure Replays (lib : JsonLibrary) (g : TicTacToeGame) : Prop where
  -- The moves are on distinct cells, and played in turn on an empty board they give the board.
  moves : ∃ moves : List (UInt32 × UInt32),
    List.Forall₂ (fun move m => coordinates lib move = .value m) g.moveList moves ∧
      moves.Nodup ∧ (∀ m ∈ moves, m.1.toNat < 3 ∧ m.2.toNat < 3) ∧
      TicTacToeBoard.replay moves .start 0 = some g.board
  turn : g.turn.val = g.moveList.length % 2
  -- The state of the board is what a full scan finds.
  lines : ∀ s, s ≠ 0 → (g.board.state = s ↔ g.board.HasLine s)
  reported : ∃ s : Int, s ∈ [-1, 0, 1] ∧
    g.getState.key "state" = .value (.numberInteger (.ofInt s))

end TicTacToeGame

open TicTacToeGame

/-- The games under any calls, without an update once they are done. -/
def playedGame (lib : JsonLibrary) : LTS TicTacToeGame TicTacToeCall :=
  (ticTacToe lib).restrict fun g c _ => g.Undone c

namespace TicTacToeGame

variable {lib : JsonLibrary} {g g' : TicTacToeGame} {out out' : List TicTacToeMessage}
  {msgs : List TicTacToeMessage} {notes : List MoveRecord} {deltaTime count : Int}

section Board

structure BoardPlayed (lib : JsonLibrary) (g : TicTacToeGame) : Prop where
  played : ∃ moves, List.Forall₂ (fun move m => coordinates lib move = .value m) g.moveList moves ∧
    TicTacToeBoard.Played moves g.turn g.board
  running : g.gameOver = false → g.state = 0
  ended : g.gameOver = true → g.board.state = 0 ∧ ∃ player, g.state = boardValues player

theorem readMove_eq_coordinates {data move : Json} (h : data.key "move" = .value move) :
    readMove lib data = coordinates lib move := by
  simp only [readMove, coordinates, h, Outcome.value_bind]

theorem BoardPlayed.construct (msg : Json) : BoardPlayed lib (TicTacToeGame.construct msg) where
  played := ⟨[], .nil, .start⟩
  running _ := rfl
  ended h := Bool.noConfusion h

theorem BoardPlayed.of_eq (h : g.BoardPlayed lib) (hb : g'.board = g.board)
    (ht : g'.turn = g.turn) (hm : g'.moveList = g.moveList) (hs : g'.state = g.state)
    (ho : g'.gameOver = g.gameOver) : g'.BoardPlayed lib where
  played := by
    rw [hb, ht, hm]
    exact h.played
  running := by
    rw [ho, hs]
    exact h.running
  ended := by
    rw [ho, hb, hs]
    exact h.ended

theorem checkTime_cases (g : TicTacToeGame) (i : Fin 2) :
    ((g.checkTime i).state = g.state ∧ (g.checkTime i).gameOver = g.gameOver) ∨
      ((g.checkTime i).state = boardValues i ∧ (g.checkTime i).gameOver = true) := by
  simp only [checkTime]
  split
  · exact .inr ⟨rfl, rfl⟩
  · exact .inl ⟨rfl, rfl⟩

theorem runClock_cases (g : TicTacToeGame) (deltaTime : Int) :
    ((g.runClock deltaTime).state = g.state ∧ (g.runClock deltaTime).gameOver = g.gameOver) ∨
      ((∃ player, (g.runClock deltaTime).state = boardValues player) ∧
        (g.runClock deltaTime).gameOver = true) := by
  simp only [runClock, List.foldl_cons, List.foldl_nil]
  generalize hg : { g with times := Function.update g.times g.turn (g.times g.turn - deltaTime) } =
    g₀
  have hs : g₀.state = g.state := by rw [← hg]
  have ho : g₀.gameOver = g.gameOver := by rw [← hg]
  rcases (g₀.checkTime 0).checkTime_cases 1 with ⟨hs₁, ho₁⟩ | ⟨hs₁, ho₁⟩
  · rw [hs₁, ho₁]
    rcases g₀.checkTime_cases 0 with ⟨hs₀, ho₀⟩ | ⟨hs₀, ho₀⟩
    · exact .inl ⟨hs₀.trans hs, ho₀.trans ho⟩
    · exact .inr ⟨⟨0, hs₀⟩, ho₀⟩
  · exact .inr ⟨⟨1, hs₁⟩, ho₁⟩

theorem BoardPlayed.advance (h : g.BoardPlayed lib) (hd : g.isDone = false) :
    (g.advance lib out deltaTime).1.BoardPlayed lib := by
  obtain ⟨hb, ho⟩ := isDone_eq_false hd
  obtain ⟨-, hstate⟩ := TicTacToeBoard.isDone_eq_false_iff.1 hb
  rw [advance_eq, runClock_eq]
  constructor
  · exact h.played
  · intro hover
    rcases g.runClock_cases deltaTime with ⟨hs, -⟩ | ⟨-, ho'⟩
    · exact hs.trans (h.running ho)
    · cases hover.symm.trans ho'
  · intro hover
    rcases g.runClock_cases deltaTime with ⟨-, ho'⟩ | ⟨hs, -⟩
    · cases ho.symm.trans (ho'.symm.trans hover)
    · exact ⟨hstate, hs⟩

theorem BoardPlayed.move (h : g.BoardPlayed lib) (hm : MoveStep lib g g') :
    g'.BoardPlayed lib := by
  cases hm with
  | @make msg data move x y hp hr hs hd hturn he hkey =>
    obtain ⟨hb, ho⟩ := isDone_eq_false hd
    obtain ⟨i, j, hread, hx, hy⟩ := readsAs_converted_iff.1 hr
    obtain ⟨moves, hmoves, hplayed⟩ := h.played
    have hadd : g.board.addMove i j (boardValues g.turn) =
        (true, g.board.move x y (boardValues g.turn)) :=
      TicTacToeBoard.addMove_eq_true.2 ⟨x, y, hx, hy, he, rfl⟩
    have hlast : coordinates lib move = .value (i, j) :=
      (readMove_eq_coordinates hkey).symm.trans hread
    constructor
    · exact ⟨moves ++ [(i, j)], List.rel_append hmoves (.cons hlast .nil), hplayed.move hb hadd⟩
    · exact h.running
    · intro hover
      cases ho.symm.trans hover

theorem BoardPlayed.moves (h : g.BoardPlayed lib)
    (hm : Relation.ReflTransGen (MoveStep lib) g g') : g'.BoardPlayed lib := by
  induction hm with
  | refl => exact h
  | tail _ hm ih => exact ih.move hm

theorem BoardPlayed.call {c : TicTacToeCall} (h : g.BoardPlayed lib) (hc : CallStep lib g c g')
    (hu : g.Undone c) : g'.BoardPlayed lib := by
  cases hc with
  | connect id => exact h.of_eq rfl rfl rfl rfl rfl
  | disconnect id => exact h.of_eq rfl rfl rfl rfl rfl
  | update hupdate =>
    cases hupdate with
    | idle => exact h
    | start => exact h.of_eq rfl rfl rfl rfl rfl
    | run hs ho hm => exact (h.advance hu).moves hm

theorem playedGame_boardPlayed : (playedGame lib).Invariant (BoardPlayed lib) where
  init := by
    intro g hinit
    obtain ⟨msg, rfl⟩ := hinit
    exact .construct msg
  step := by
    rintro g c g' _ hg ⟨⟨out, out', h⟩, hu⟩
    exact hg.call (call_cases h) hu

theorem BoardPlayed.reported (h : g.BoardPlayed lib) : g.totalState ∈ [-1, 0, 1] := by
  have hvalue (player : Fin 2) : boardValues player ∈ [-1, 0, 1] := by
    revert player
    decide
  cases ho : g.gameOver with
  | true =>
    obtain ⟨hb, player, hs⟩ := h.ended ho
    rw [totalState, hb, hs, Int.zero_add]
    exact hvalue player
  | false =>
    obtain ⟨moves, -, hplayed⟩ := h.played
    rw [totalState, h.running ho, Int.add_zero]
    rcases hplayed.state_cases with hb | ⟨player, hb⟩
    · rw [hb]
      decide
    · rw [hb]
      exact hvalue player

theorem BoardPlayed.replays (h : g.BoardPlayed lib) : g.Replays lib := by
  obtain ⟨moves, hmoves, hplayed⟩ := h.played
  obtain ⟨hnodup, hinside⟩ := hplayed.distinct
  constructor
  · exact ⟨moves, hmoves, hnodup, hinside, hplayed.replay_eq⟩
  · rw [hplayed.turn, hmoves.length_eq]
  · exact hplayed.scanned
  · exact ⟨g.totalState, h.reported, rfl⟩

end Board

section Records

/-- A message that is read is recorded if it is a legal move, and changes nothing otherwise. -/
theorem Recorded.takeMessage {msg : TicTacToeMessage}
    {s s' : TicTacToeGame × List TicTacToeMessage} (h : takeMessage lib s msg = .value s')
    (hr : Recorded lib notes s.1.moveList) :
    Recorded lib
      (notes ++ if s'.1.moveList.length = s.1.moveList.length then [] else [⟨msg, s.1⟩])
      s'.1.moveList := by
  rcases takeMessage_cases h with ⟨⟨data, x, y, hp, hread, hs, hd, hturn, he⟩, -⟩ | ⟨-, rfl⟩
  · obtain ⟨g, out⟩ := s
    obtain ⟨move, hkey, hmove⟩ := takeMessage_legal out hp hread hs hd hturn he
    cases h.symm.trans hmove
    have hlonger : (g.makeMove x y move).moveList.length ≠ g.moveList.length := by
      simp only [makeMove, List.length_append, List.length_singleton]
      omega
    rw [if_neg hlonger]
    exact hr.move rfl hd hturn hp hkey
  · rw [if_pos rfl, List.append_nil]
    exact hr

theorem Recorded.messages {s s' : TicTacToeGame × List TicTacToeMessage}
    (h : msgs.foldlM (TicTacToeGame.takeMessage lib) s = .value s')
    (hr : Recorded lib notes s.1.moveList) :
    Recorded lib (notes ++ records lib s msgs) s'.1.moveList := by
  induction msgs generalizing s notes with
  | nil =>
    cases h
    rw [records, List.append_nil]
    exact hr
  | cons msg msgs ih =>
    rw [List.foldlM_cons] at h
    obtain ⟨s₁, hfirst, hrest⟩ := Outcome.bind_eq_value.1 h
    have hnotes := ih hrest (hr.takeMessage hfirst)
    rw [List.append_assoc] at hnotes
    simp only [records, hfirst]
    exact hnotes

theorem callRecords_idle (h : g.started = false ∨ g.gameOver = true) :
    g.callRecords lib out (.update msgs deltaTime count) = [] := by
  simp only [callRecords]
  rcases h with h | h
  · rw [h, Bool.false_and]
    rfl
  · rw [h, Bool.not_true, Bool.and_false]
    rfl

theorem Recorded.call {c : TicTacToeCall} (h : g.call lib out c = .value (g', out'))
    (hr : Recorded lib notes g.moveList) :
    Recorded lib (notes ++ g.callRecords lib out c) g'.moveList := by
  have hstep := call_cases h
  cases hstep with
  | connect id | disconnect id =>
    simp only [callRecords, List.append_nil]
    exact hr
  | update hu =>
    cases hu with
    | idle hidle | start hidle =>
      rw [callRecords_idle hidle, List.append_nil]
      exact hr
    | run hs ho hm =>
      simp only [TicTacToeGame.call, update_running hs ho] at h
      simp only [callRecords, hs, ho, Bool.not_false, Bool.and_self, ↓reduceIte]
      apply Recorded.messages h
      rw [advance_eq, runClock_eq]
      exact hr

theorem recorded_traced (h : (playedGame lib).Traced (NotesMoves lib) notes g) :
    Recorded lib notes g.moveList := by
  apply h.invariant (J := fun notes g => Recorded lib notes g.moveList) ?_ ?_
  · intro g hinit
    obtain ⟨msg, rfl⟩ := hinit
    exact .nil
  · rintro notes g c g' ns - hr - ⟨out, out', hcall, rfl⟩
    exact hr.call hcall

end Records

theorem update_isValue (hw : g.WellFormed) (hu : ∀ msg ∈ msgs, ¬ UncheckedText lib msg) :
    (g.update lib out msgs deltaTime count).IsValue := by
  by_cases hrun : g.started = true ∧ g.gameOver = false
  · obtain ⟨hs, ho⟩ := hrun
    have hdefined : g.update lib out msgs deltaTime count ≠ .undefined :=
      (update_ne_undefined_iff hw hs ho).2 hu
    rw [update_running hs ho] at hdefined ⊢
    apply (Outcome.isValue_iff_ne_undefined _).2 hdefined
    exact Outcome.foldlM_ne_thrown takeMessage_ne_thrown _ _
  · rw [update_idle (idle_of_not_running hrun)]
    split
    · exact ⟨_, rfl⟩
    · exact ⟨_, rfl⟩

/-- After any calls without an update of a game that is done: the state is that of the replay of
the moves, each move came from a message of the player to move to a game that was not done, and
the next update finds the player to move, so that it comes to a value unless a message lacks what
is read. -/
theorem state_replays_moves (h : (playedGame lib).Traced (NotesMoves lib) notes g) :
    g.Replays lib ∧ Recorded lib notes g.moveList ∧
      ∀ out msgs deltaTime count, (∀ msg ∈ msgs, ¬ UncheckedText lib msg) →
        (g.update lib out msgs deltaTime count).IsValue := by
  have hr := h.reachable
  refine ⟨(playedGame_boardPlayed.reachable hr).replays, recorded_traced h, ?_⟩
  intro out msgs deltaTime count hu
  exact update_isValue (ticTacToe_wellFormed.reachable hr.of_restrict) hu

theorem reachable_traced (h : (playedGame lib).Reachable g) :
    ∃ notes, (playedGame lib).Traced (NotesMoves lib) notes g := by
  apply h.traced
  intro g c g' hc
  obtain ⟨⟨out, out', hcall⟩, -⟩ := hc
  exact ⟨_, out, out', hcall, rfl⟩

def rowLibrary : JsonLibrary :=
  { sampleLibrary with
    parse text :=
      let move i j : Json := .object [("move", .array [.numberUnsigned i, .numberUnsigned j])]
      [("\x7b\"move\":[0,0]\x7d", move 0 0), ("\x7b\"move\":[1,0]\x7d", move 1 0),
        ("\x7b\"move\":[0,1]\x7d", move 0 1), ("\x7b\"move\":[1,1]\x7d", move 1 1),
        ("\x7b\"move\":[0,2]\x7d", move 0 2)].lookup text }

/-- Players 1 and 2 connect, the game starts and player 1 wins with the first row, after a text that
is no move and one that comes too early. -/
theorem state_replays_moves_first_row :
    ∃ notes g, (playedGame rowLibrary).Traced (NotesMoves rowLibrary) notes g ∧
      g.moveList.length = 5 ∧ g.isDone = true ∧ g.totalState = 1 ∧ g.Replays rowLibrary ∧
      Recorded rowLibrary notes g.moveList ∧ (g.update rowLibrary [] [] 100 1).IsValue := by
  have h0 : (playedGame rowLibrary).Traced (NotesMoves rowLibrary) []
      (construct (.object [("matched", .boolean true)])) := .init ⟨_, rfl⟩
  have h1 := h0.step (l := TicTacToeCall.connect 1) ⟨⟨[], _, rfl⟩, trivial⟩ ⟨[], _, rfl, rfl⟩
  have h2 := h1.step (l := TicTacToeCall.connect 2) ⟨⟨[], _, rfl⟩, trivial⟩ ⟨[], _, rfl, rfl⟩
  have h3 := h2.step (l := TicTacToeCall.update [] 0 1) ⟨⟨[], _, rfl⟩, rfl⟩ ⟨[], _, rfl, rfl⟩
  have h4 := h3.step (l := TicTacToeCall.update [(1, "hello"), (1, "\x7b\"move\":[0,0]\x7d"),
    (1, "\x7b\"move\":[0,1]\x7d"), (2, "\x7b\"move\":[1,0]\x7d")] 100 1)
    ⟨⟨[], _, rfl⟩, rfl⟩ ⟨[], _, rfl, rfl⟩
  have h5 := h4.step (l := TicTacToeCall.update [(1, "\x7b\"move\":[0,1]\x7d"),
    (2, "\x7b\"move\":[1,1]\x7d"), (1, "\x7b\"move\":[0,2]\x7d")] 100 1)
    ⟨⟨[], _, rfl⟩, rfl⟩ ⟨[], _, rfl, rfl⟩
  obtain ⟨hreplays, hrecorded, hupdates⟩ := state_replays_moves h5
  exact ⟨_, _, h5, rfl, by decide +kernel, by decide +kernel, hreplays, hrecorded,
    hupdates _ _ _ _ (List.forall_mem_nil _)⟩

end TicTacToeGame

end WebGameServer
