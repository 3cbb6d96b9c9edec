import WebGameServer.TicTacToe.Calls

namespace WebGameServer
set_option autoImplicit true

namespace TicTacToeGame

/-- The board, the turn, the moves and the state are the same in both games. -/
structure Unchanged (g g' : TicTacToeGame) : Prop where
  board : g'.board = g.board
  turn : g'.turn = g.turn
  moveList : g'.moveList = g.moveList
  state : g'.state = g.state
  gameOver : g'.gameOver = g.gameOver

theorem Unchanged.refl (g : TicTacToeGame) : Unchanged g g := ⟨rfl, rfl, rfl, rfl, rfl⟩

/-- No access in the update is unchecked, and every message that is not a legal move when its
turn comes is ignored. -/
structure Harmless (coordinate : Json → Fin 3 → Prop) (lib : JsonLibrary) (g : TicTacToeGame)
    (out msgs : List TicTacToeMessage) (deltaTime count : Int) : Prop where
  checked : g.update lib out msgs deltaTime count ≠ .undefined
  ignored : ∀ before msg s s', before ++ [msg] <+: msgs →
    g.update lib out before deltaTime count = .value s →
    g.update lib out (before ++ [msg]) deltaTime count = .value s' →
    ¬ LegalMove coordinate lib s.1 msg → Unchanged s.1 s'.1

variable {lib : JsonLibrary} {g : TicTacToeGame} {out msgs before : List TicTacToeMessage}
  {msg : TicTacToeMessage} {s s' : TicTacToeGame × List TicTacToeMessage}
  {deltaTime count : Int}

theorem takeMessage_ne_thrown (s : TicTacToeGame × List TicTacToeMessage)
    (msg : TicTacToeMessage) (e : JsonException) : takeMessage lib s msg ≠ .thrown e := by
  simp only [takeMessage]
  split
  · intro h
    cases h
  · simp only [playerUpdate]
    exact Outcome.catchAll_ne_thrown _ _ e

theorem update_concat (hs : g.started = true) (ho : g.gameOver = false) :
    g.update lib out (before ++ [msg]) deltaTime count =
      g.update lib out before deltaTime count >>= fun s => takeMessage lib s msg := by
  rw [update_running hs ho, update_running hs ho, Outcome.foldlM_concat]

/-- A game that runs reads every message, and comes to a value exactly if the texts have what
is read. -/
theorem update_ne_undefined_iff (hw : g.WellFormed) (hs : g.started = true)
    (ho : g.gameOver = false) :
    g.update lib out msgs deltaTime count ≠ .undefined ↔
      ∀ msg ∈ msgs, ¬ UncheckedText lib msg := by
  rw [update_running hs ho,
    ← Outcome.isValue_iff_ne_undefined (Outcome.foldlM_ne_thrown takeMessage_ne_thrown _ _)]
  constructor
  · intro h msg hm hu
    obtain ⟨before, after, rfl⟩ := List.append_of_mem hm
    have hsplit := h
    rw [List.foldlM_append] at hsplit
    obtain ⟨s, hbefore, -⟩ := Outcome.bind_isValue_iff.1 hsplit
    have ht := (Outcome.foldlM_isValue_iff _ _ _).1 h before msg after s rfl hbefore
    exact ht.ne_undefined (takeMessage_unchecked hu s)
  · intro h
    apply (Outcome.foldlM_isValue_iff _ _ _).2
    rintro before msg after ⟨g', out'⟩ rfl hbefore
    have hu := h msg (List.mem_append_right _ List.mem_cons_self)
    have hw' : g'.WellFormed := hw.advance.moves (moves_of_messages hbefore)
    by_cases hl : LegalMove (Converted lib) lib g' msg
    · obtain ⟨data, x, y, hp, hr, hs', hd, hturn, he⟩ := hl
      obtain ⟨move, -, hmove⟩ := takeMessage_legal out' hp hr hs' hd hturn he
      exact ⟨_, hmove⟩
    · rcases takeMessage_ignored out' hu hl with ht | ⟨-, hs', hturn⟩
      · exact ⟨_, ht⟩
      · have hlt : g'.turn.val < g'.playerList.length :=
          lt_of_lt_of_le g'.turn.isLt (hw'.seated hs')
        rw [List.getElem?_eq_getElem hlt] at hturn
        cases hturn

/-- In a game that runs the messages that are not legal moves by the conversion are ignored. -/
theorem update_ignored (hs : g.started = true) (ho : g.gameOver = false)
    (hbefore : g.update lib out before deltaTime count = .value s)
    (hafter : g.update lib out (before ++ [msg]) deltaTime count = .value s')
    (hl : ¬ LegalMove (Converted lib) lib s.1 msg) : Unchanged s.1 s'.1 := by
  rw [update_concat hs ho, hbefore, Outcome.value_bind] at hafter
  rcases takeMessage_cases hafter with ⟨hl', -⟩ | ⟨-, rfl⟩
  · exact (hl hl').elim
  · exact .refl _

theorem update_moved (hs : g.started = true) (ho : g.gameOver = false)
    (hbefore : g.update lib out before deltaTime count = .value s)
    (hl : LegalMove (Converted lib) lib s.1 msg) :
    ∃ s', g.update lib out (before ++ [msg]) deltaTime count = .value s' ∧
      ¬ Unchanged s.1 s'.1 := by
  obtain ⟨data, x, y, hp, hr, hs', hd, hturn, he⟩ := hl
  obtain ⟨move, -, hmove⟩ := takeMessage_legal s.2 hp hr hs' hd hturn he
  have hafter : g.update lib out (before ++ [msg]) deltaTime count = takeMessage lib s msg := by
    rw [update_concat hs ho, hbefore, Outcome.value_bind]
  refine ⟨_, hafter.trans hmove, fun hu => ?_⟩
  have hlength := congrArg List.length hu.moveList
  simp only [makeMove, List.length_append, List.length_singleton] at hlength
  omega

theorem harmless_of_over (coordinate : Json → Fin 3 → Prop) (ho : g.gameOver = true) :
    Harmless coordinate lib g out msgs deltaTime count where
  checked := by
    rw [update_idle (.inr ho)]
    split <;>
    · intro h
      cases h
  ignored before msg s s' _ hbefore hafter _ := by
    rw [update_idle (.inr ho)] at hbefore hafter
    rw [hbefore] at hafter
    cases hafter
    exact .refl _

/-- The messages of an update are harmless exactly if the game is over or none of them lacks what
`player_update` reads without a check. Where a move is legal only if its coordinates are written
as those of a cell, they may also not be converted to those of an empty cell. -/
theorem hostile_messages_harmless_iff (h : (ticTacToe lib).Reachable g)
    (hs : g.started = true) (out msgs : List TicTacToeMessage) (deltaTime count : Int) :
    (Harmless (Converted lib) lib g out msgs deltaTime count ↔
      (g.gameOver = false → ∀ msg ∈ msgs, ¬ UncheckedText lib msg)) ∧
    (Harmless Denoted lib g out msgs deltaTime count ↔
      (g.gameOver = false → (∀ msg ∈ msgs, ¬ UncheckedText lib msg) ∧
        ∀ before msg s, before ++ [msg] <+: msgs →
          g.update lib out before deltaTime count = .value s →
          LegalMove (Converted lib) lib s.1 msg → LegalMove Denoted lib s.1 msg)) := by
  cases ho : g.gameOver with
  | true =>
    exact ⟨⟨fun _ => nofun, fun _ => harmless_of_over _ ho⟩,
      ⟨fun _ => nofun, fun _ => harmless_of_over _ ho⟩⟩
  | false =>
    have hw := ticTacToe_wellFormed.reachable h
    have hchecked : g.update lib out msgs deltaTime count ≠ .undefined ↔
        ∀ msg ∈ msgs, ¬ UncheckedText lib msg := update_ne_undefined_iff hw hs ho
    constructor
    · constructor
      · exact fun hh _ => hchecked.1 hh.checked
      · intro hc
        exact ⟨hchecked.2 (hc rfl), fun before msg s s' _ => update_ignored hs ho⟩
    · constructor
      · intro hh _
        refine ⟨hchecked.1 hh.checked, fun before msg s hp hbefore hl => ?_⟩
        obtain ⟨s', hafter, hmoved⟩ := update_moved hs ho hbefore hl
        by_contra hd
        exact hmoved (hh.ignored before msg s s' hp hbefore hafter hd)
      · intro hc
        obtain ⟨hu, hd⟩ := hc rfl
        refine ⟨hchecked.2 hu, fun before msg s s' hp hbefore hafter hl => ?_⟩
        apply update_ignored hs ho hbefore hafter
        exact fun hc => hl (hd before msg s hp hbefore hc)

theorem started_reachable :
    ∃ g, (ticTacToe sampleLibrary).Reachable g ∧ g.started = true ∧ g.gameOver = false ∧
      g.playerList = [1, 2] := by
  have h0 : (ticTacToe sampleLibrary).Reachable
      (construct (.object [("matched", .boolean true)])) := .init ⟨_, rfl⟩
  have h1 := h0.step (l := .connect 1) ⟨[], _, rfl⟩
  have h2 := h1.step (l := .connect 2) ⟨[], _, rfl⟩
  have h3 := h2.step (l := .update [] 0 1) ⟨[], _, rfl⟩
  exact ⟨_, h3, rfl, rfl, rfl⟩

/-- Texts that are no values are harmless. -/
theorem hostile_messages_harmless_text :
    ∃ g, g.started = true ∧ Harmless (Converted sampleLibrary) sampleLibrary g []
      [(1, "hi"), (3, "hi")] 100 0 := by
  obtain ⟨g, h, hs, -, -⟩ := started_reachable
  refine ⟨g, hs, (hostile_messages_harmless_iff h hs [] _ 100 0).1.2 fun _ msg hm => ?_⟩
  rintro ⟨data, hp, -⟩
  simp only [List.mem_cons, List.not_mem_nil, or_false] at hm
  rcases hm with rfl | rfl <;> cases hp

/-- An empty object reaches an unchecked access, whoever sends it. -/
theorem empty_object_unchecked :
    ∃ g, (ticTacToe sampleLibrary).Reachable g ∧ g.started = true ∧
      g.update sampleLibrary [] [(3, "\x7b\x7d")] 100 0 = .undefined ∧
      ¬ Harmless (Converted sampleLibrary) sampleLibrary g [] [(3, "\x7b\x7d")] 100 0 ∧
      ¬ Harmless Denoted sampleLibrary g [] [(3, "\x7b\x7d")] 100 0 := by
  obtain ⟨g, h, hs, ho, -⟩ := started_reachable
  have hu : UncheckedText sampleLibrary (3, "\x7b\x7d") := ⟨.object [], rfl, .noMove rfl⟩
  have he : g.update sampleLibrary [] [(3, "\x7b\x7d")] 100 0 = .undefined := by
    rw [update_running hs ho, List.foldlM_cons, takeMessage_unchecked hu, Outcome.undefined_bind]
  exact ⟨g, h, hs, he, fun hh => hh.checked he, fun hh => hh.checked he⟩

end TicTacToeGame

end WebGameServer
