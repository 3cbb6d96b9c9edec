import WebGameServer.TicTacToe.Page

namespace WebGameServer
set_option autoImplicit true

/-- The texts of the player that the call passes on. -/
def TicTacToeCall.textsOf (id : TicTacToePlayer) : TicTacToeCall → List String
  | .update msgs _ _ => (msgs.filter fun msg => msg.1 = id).map Prod.snd
  | _ => []

def reportsTo (id : TicTacToePlayer) (l : List (TicTacToePlayer × Report)) : List Report :=
  (l.filter fun r => r.1 = id).map Prod.snd

/-- The value that `json::parse` makes of the text of a move. -/
def moveValue (square : Fin 9) : Json :=
  .object [("move", .array [.numberUnsigned (.ofNat (square.val % 3)),
    .numberUnsigned (.ofNat (square.val / 3))])]

/-- `json::parse` reads the nine texts that a page sends. -/
def ParsesMoves (lib : JsonLibrary) : Prop :=
  ∀ square, lib.parse (GameData.moveText square) = some (moveValue square)

namespace TicTacToeGame

variable {lib : JsonLibrary} {id : TicTacToePlayer} {g g' : TicTacToeGame} {seat : Fin 2}
  {square : Fin 9}

section Seats

theorem filter_eq_singleton {l : List TicTacToePlayer} (hm : id ∈ l) (hn : l.Nodup) :
    (l.filter fun q => q = id) = [id] := by
  induction l with
  | nil => cases hm
  | cons q l ih =>
    obtain ⟨hq, hn⟩ := List.nodup_cons.1 hn
    by_cases he : q = id
    · subst he
      have hrest : (l.filter fun a => a = q) = [] := by
        rw [List.filter_eq_nil_iff]
        intro a ha h
        exact hq (of_decide_eq_true h ▸ ha)
      rw [List.filter_cons, if_pos (decide_eq_true rfl), hrest]
    · rw [List.filter_cons, if_neg (by simpa only [decide_eq_true_eq] using he)]
      exact ih ((List.mem_cons.1 hm).resolve_left fun h => he h.symm) hn

theorem reportsTo_reports (r : Report) (hm : id ∈ g.playerList) (hn : g.playerList.Nodup)
    (hc : g.isConnected id = true) : reportsTo id (g.reports r) = [r] := by
  have hone := filter_eq_singleton (List.mem_filter.2 ⟨hm, hc⟩) (hn.filter g.isConnected)
  have hfilter : ((g.reports r).filter fun x => x.1 = id) =
      ((g.playerList.filter g.isConnected).filter fun q => q = id).map fun q => (q, r) :=
    List.filter_map
  rw [reportsTo, hfilter, hone]
  rfl

theorem reportsTo_append (l l' : List (TicTacToePlayer × Report)) :
    reportsTo id (l ++ l') = reportsTo id l ++ reportsTo id l' := by
  rw [reportsTo, reportsTo, reportsTo, List.filter_append, List.map_append]

/-- The texts of a call for the player are those of the reports to the player. -/
theorem call_texts {c : TicTacToeCall} {out : List TicTacToeMessage}
    (h : g.call lib [] c = .value (g', out)) :
    (out.filter fun msg => msg.1 = id).map Prod.snd =
      (reportsTo id (g.callReports lib [] c)).map fun r => lib.dump (r.value id) := by
  rw [call_out h, List.nil_append, List.filter_map, reportsTo, List.map_map, List.map_map]
  apply List.map_congr_left
  intro r hr
  have hid : r.1 = id := of_decide_eq_true (List.mem_filter.1 hr).2
  rw [← hid]
  rfl

theorem turn_iff (hn : g.playerList.Nodup) (hseat : g.playerList[seat.val]? = some id) :
    g.playerList[g.turn.val]? = some id ↔ g.turn = seat := by
  obtain ⟨hlt, -⟩ := List.getElem?_eq_some_iff.1 hseat
  have hinj := List.getElem?_inj (j := g.turn.val) hlt hn
  rw [hseat] at hinj
  constructor
  · intro h
    exact Fin.ext (hinj.1 h.symm).symm
  · intro h
    rw [h, hseat]

theorem getValue_square (b : TicTacToeBoard) (square : Fin 9) {x y : Fin 3}
    (hx : x.val = square.val % 3) (hy : y.val = square.val / 3) :
    b.board.toList[square.val]? = some (b.getValue x y) := by
  have hsquare : x.val + 3 * y.val = square.val := by omega
  have hlt : square.val < b.board.toList.length := by
    rw [Vector.length_toList]
    exact square.isLt
  rw [List.getElem?_eq_getElem hlt, Vector.getElem_toList]
  simp only [TicTacToeBoard.getValue, hsquare]

theorem readsAs_moveValue {x y : Fin 3} :
    ReadsAs (Converted lib) (moveValue square) x y ↔
      x.val = square.val % 3 ∧ y.val = square.val / 3 := by
  have hfirst (n : Fin 9) : (UInt64.ofNat (n.val % 3)).toUInt32.toNat = n.val % 3 := by
    revert n
    decide
  have hsecond (n : Fin 9) : (UInt64.ofNat (n.val / 3)).toUInt32.toNat = n.val / 3 := by
    revert n
    decide
  constructor
  · rintro ⟨fields, a, b, rest, hd, hm, ⟨i, hi, hx⟩, j, hj, hy⟩
    cases hd
    cases hm
    cases hi
    cases hj
    exact ⟨hx.symm.trans (hfirst square), hy.symm.trans (hsecond square)⟩
  · rintro ⟨hx, hy⟩
    refine ⟨_, _, _, [], rfl, rfl, ⟨_, rfl, ?_⟩, _, rfl, ?_⟩
    · rw [hx]
      exact hfirst square
    · rw [hy]
      exact hsecond square

theorem legalMove_iff (square : Fin 9) (hparse : ParsesMoves lib) (hs : g.started = true)
    (hn : g.playerList.Nodup) (hseat : g.playerList[seat.val]? = some id) :
    LegalMove (Converted lib) lib g (id, GameData.moveText square) ↔
      ticTacToeReplica.turn (g.view seat) ∧ ticTacToeReplica.legal (g.view seat) square := by
  have hturn : (g.turn.val : Int) = seat.val ↔ g.turn = seat := by
    constructor
    · intro h
      exact Fin.ext (Int.ofNat.inj h)
    · intro h
      rw [h]
  constructor
  · rintro ⟨data, x, y, hp, hr, -, hd, ht, he⟩
    cases (hparse square).symm.trans hp
    obtain ⟨hx, hy⟩ := readsAs_moveValue.1 hr
    refine ⟨⟨hturn.2 ((turn_iff hn hseat).1 ht), hd⟩, ?_⟩
    exact (getValue_square g.board square hx hy).trans (congrArg some he)
  · rintro ⟨⟨ht, hd⟩, hl⟩
    have hx : square.val % 3 < 3 := by omega
    have hy : square.val / 3 < 3 := by omega
    have hread : ReadsAs (Converted lib) (moveValue square) ⟨_, hx⟩ ⟨_, hy⟩ :=
      readsAs_moveValue.2 ⟨rfl, rfl⟩
    have hcell := getValue_square g.board square (x := ⟨_, hx⟩) (y := ⟨_, hy⟩) rfl rfl
    refine ⟨_, _, _, hparse square, hread, hs, hd, (turn_iff hn hseat).2 (hturn.1 ht), ?_⟩
    exact Option.some.inj (hcell.symm.trans hl)

end Seats

section Seated

variable {out : List TicTacToeMessage} {deltaTime : Int}

structure Seated (lib : JsonLibrary) (id : TicTacToePlayer) (seat : Fin 2) (g : TicTacToeGame) :
    Prop where
  played : g.BoardPlayed lib
  started : g.started = true
  nodup : g.playerList.Nodup
  seat : g.playerList[seat.val]? = some id
  connected : g.isConnected id = true

theorem Seated.mem (h : Seated lib id seat g) : id ∈ g.playerList :=
  List.mem_of_getElem? h.seat

theorem Seated.told (h : Seated lib id seat g) (r : Report) :
    reportsTo id (g.reports r) = [r] :=
  reportsTo_reports r h.mem h.nodup h.connected

theorem Seated.move (h : Seated lib id seat g) (hm : MoveStep lib g g') :
    Seated lib id seat g' where
  played := h.played.move hm
  started := by
    cases hm with
    | make => exact h.started
  nodup := by
    cases hm with
    | make => exact h.nodup
  seat := by
    cases hm with
    | make => exact h.seat
  connected := by
    cases hm with
    | make => exact h.connected

/-- The clock ends the game or changes nothing that the page shows but the times. -/
theorem advance_view (hd : (g.advance lib out deltaTime).1.isDone = false) :
    (g.advance lib out deltaTime).1.view seat = g.view seat := by
  rw [advance_eq, runClock_eq] at hd ⊢
  have hover : (g.runClock deltaTime).gameOver = false := (isDone_eq_false hd).2
  rcases g.runClock_cases deltaTime with ⟨hs, ho⟩ | ⟨-, ho⟩
  · simp only [view, totalState, isDone, hs, ho]
  · cases hover.symm.trans ho

theorem moveReports_cons {s s' : TicTacToeGame × List TicTacToeMessage}
    (ht : takeMessage lib s msg = .value s') (msgs : List TicTacToeMessage) :
    moveReports lib s (msg :: msgs) = moveReports lib s [msg] ++ moveReports lib s' msgs := by
  simp only [moveReports, ht, List.append_nil]

/-- A message makes a legal move, which is reported, or it is ignored without an answer. -/
theorem takeMessage_reports {s s' : TicTacToeGame × List TicTacToeMessage}
    (ht : takeMessage lib s msg = .value s') :
    LegalMove (Converted lib) lib s.1 msg ∧ MoveStep lib s.1 s'.1 ∧
        moveReports lib s [msg] = s'.1.reports (.game s'.1) ∨
      ¬ LegalMove (Converted lib) lib s.1 msg ∧ s' = s ∧ moveReports lib s [msg] = [] := by
  rcases takeMessage_cases ht with ⟨hl, hm⟩ | ⟨hl, rfl⟩
  · refine .inl ⟨hl, hm, ?_⟩
    have hlonger : s'.1.moveList.length ≠ s.1.moveList.length := by
      generalize s'.1 = g' at hm
      cases hm with
      | make =>
        simp only [makeMove, List.length_append, List.length_singleton]
        omega
    simp only [moveReports, ht, if_neg hlonger, List.append_nil]
  · exact .inr ⟨hl, rfl, by simp only [moveReports, ht, ↓reduceIte, List.append_nil]⟩

theorem move_turn (hm : MoveStep lib g g') : g'.turn ≠ g.turn := by
  cases hm with
  | make =>
    simp only [makeMove]
    generalize g.turn = turn
    revert turn
    decide

theorem view_turn (g : TicTacToeGame) (seat : Fin 2) :
    ticTacToeReplica.turn (g.view seat) ↔ g.turn = seat ∧ g.isDone = false := by
  constructor
  · rintro ⟨ht, hd⟩
    exact ⟨Fin.ext (Int.ofNat.inj ht), hd⟩
  · rintro ⟨rfl, hd⟩
    exact ⟨rfl, hd⟩

end Seated

end TicTacToeGame

end WebGameServer
