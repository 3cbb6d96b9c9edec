import WebGameServer.TicTacToe.Game

namespace WebGameServer
set_option autoImplicit true

namespace Json

/-- The values that `get<unsigned int>` converts. -/
def isArithmetic : Json → Bool
  | .numberUnsigned _ | .numberInteger _ | .numberFloat _ | .boolean _ => true
  | _ => false

theorem key_eq_value {j v : Json} :
    j.key k = .value v ↔ ∃ fields, j = .object fields ∧ fields.lookup k = some v := by
  constructor
  · intro h
    cases j with
    | object fields =>
      simp only [key] at h
      split at h
      · next hv =>
        cases h
        exact ⟨fields, rfl, hv⟩
      · cases h
    | _ => cases h
  · rintro ⟨fields, rfl, hv⟩
    simp only [key, hv]

theorem key_eq_undefined {j : Json} :
    j.key k = .undefined ↔ ∃ fields, j = .object fields ∧ fields.lookup k = none := by
  constructor
  · intro h
    cases j with
    | object fields =>
      simp only [key] at h
      split at h
      · cases h
      · next hv => exact ⟨fields, rfl, hv⟩
    | _ => cases h
  · rintro ⟨fields, rfl, hv⟩
    simp only [key, hv]

theorem index_eq_value {j v : Json} :
    j.index i = .value v ↔ ∃ a, j = .array a ∧ a[i]? = some v := by
  constructor
  · intro h
    cases j with
    | array a =>
      simp only [index] at h
      split at h
      · next hv =>
        cases h
        exact ⟨a, rfl, hv⟩
      · cases h
    | _ => cases h
  · rintro ⟨a, rfl, hv⟩
    simp only [index, hv]

theorem index_eq_undefined {j : Json} :
    j.index i = .undefined ↔ ∃ a, j = .array a ∧ a.length ≤ i := by
  constructor
  · intro h
    cases j with
    | array a =>
      simp only [index] at h
      split at h
      · cases h
      · next hv => exact ⟨a, rfl, List.getElem?_eq_none_iff.1 hv⟩
    | _ => cases h
  · rintro ⟨a, rfl, hi⟩
    simp only [index, List.getElem?_eq_none_iff.2 hi]

theorem getUnsigned_isValue (lib : JsonLibrary) (j : Json) :
    (j.getUnsigned lib).IsValue ↔ j.isArithmetic = true := by
  cases j with
  | numberUnsigned | numberInteger | numberFloat | boolean =>
    exact ⟨fun _ => rfl, fun _ => ⟨_, rfl⟩⟩
  | null | string | array | object =>
    constructor
    · rintro ⟨n, h⟩
      cases h
    · intro h
      cases h

theorem getUnsigned_ne_undefined (lib : JsonLibrary) (j : Json) :
    j.getUnsigned lib ≠ .undefined := by
  intro h
  cases j <;> cases h

end Json

namespace TicTacToeGame

variable {lib : JsonLibrary} {g g' : TicTacToeGame} {out out' : List TicTacToeMessage}
  {data : Json}

def Denoted (a : Json) (x : Fin 3) : Prop :=
  match a with
  | .numberUnsigned n => n.toNat = x.val
  | .numberInteger n => n.toInt = x.val
  | .numberFloat q => q = x.val
  | _ => False

/-- The coordinate of a move as `get<unsigned int>` converts it. -/
def Converted (lib : JsonLibrary) (a : Json) (x : Fin 3) : Prop :=
  ∃ i, a.getUnsigned lib = .value i ∧ i.toNat = x.val

/-- A value of the form that a player sends for a move, whose coordinates are read in one of
the two ways. -/
def ReadsAs (coordinate : Json → Fin 3 → Prop) (data : Json) (x y : Fin 3) : Prop :=
  ∃ fields a b rest, data = .object fields ∧
    fields.lookup "move" = some (.array (a :: b :: rest)) ∧ coordinate a x ∧ coordinate b y

/-- The message is a move of the player to move on an empty cell of a game that goes on. -/
def LegalMove (coordinate : Json → Fin 3 → Prop) (lib : JsonLibrary) (g : TicTacToeGame)
    (msg : TicTacToeMessage) : Prop :=
  ∃ data x y, lib.parse msg.2 = some data ∧ ReadsAs coordinate data x y ∧ g.started = true ∧
    g.isDone = false ∧ g.playerList[g.turn.val]? = some msg.1 ∧
    g.board.getValue x y = emptyVal

/-- What `player_update` reads without a check is not there: the object has no move, the move
has no first coordinate, or it has no second one and the first one does not throw. -/
inductive Unchecked : Json → Prop where
  | noMove : fields.lookup "move" = none → Unchecked (.object fields)
  | noFirst : fields.lookup "move" = some (.array []) → Unchecked (.object fields)
  | noSecond : fields.lookup "move" = some (.array [a]) → a.isArithmetic = true →
      Unchecked (.object fields)

def UncheckedText (lib : JsonLibrary) (msg : TicTacToeMessage) : Prop :=
  ∃ data, lib.parse msg.2 = some data ∧ Unchecked data

theorem readMove_eq_value {i j : UInt32} :
    readMove lib data = .value (i, j) ↔
      ∃ fields a b rest, data = .object fields ∧
        fields.lookup "move" = some (.array (a :: b :: rest)) ∧
        a.getUnsigned lib = .value i ∧ b.getUnsigned lib = .value j := by
  constructor
  · intro h
    simp only [readMove] at h
    obtain ⟨move, hm, h⟩ := Outcome.bind_eq_value.1 h
    obtain ⟨a, ha, h⟩ := Outcome.bind_eq_value.1 h
    obtain ⟨i', hi, h⟩ := Outcome.bind_eq_value.1 h
    rw [hm, Outcome.value_bind] at h
    obtain ⟨b, hb, h⟩ := Outcome.bind_eq_value.1 h
    obtain ⟨j', hj, h⟩ := Outcome.bind_eq_value.1 h
    cases h
    obtain ⟨fields, rfl, hmove⟩ := Json.key_eq_value.1 hm
    obtain ⟨l, rfl, ha⟩ := Json.index_eq_value.1 ha
    obtain ⟨l', hl, hb⟩ := Json.index_eq_value.1 hb
    cases hl
    match l with
    | [] => cases ha
    | [_] => cases hb
    | _ :: _ :: rest =>
      cases ha
      cases hb
      exact ⟨fields, a, b, rest, rfl, hmove, hi, hj⟩
  · rintro ⟨fields, a, b, rest, rfl, hmove, hi, hj⟩
    have hm := Json.key_eq_value.2 ⟨fields, rfl, hmove⟩
    have ha : (Json.array (a :: b :: rest)).index 0 = .value a := rfl
    have hb : (Json.array (a :: b :: rest)).index 1 = .value b := rfl
    simp only [readMove, hm, ha, hb, hi, hj, Outcome.value_bind, Outcome.pure_eq]

theorem readMove_eq_undefined : readMove lib data = .undefined ↔ Unchecked data := by
  constructor
  · intro h
    simp only [readMove] at h
    rcases Outcome.bind_eq_undefined.1 h with hm | ⟨move, hm, h₁⟩
    · obtain ⟨fields, rfl, hmove⟩ := Json.key_eq_undefined.1 hm
      exact .noMove hmove
    obtain ⟨fields, rfl, hmove⟩ := Json.key_eq_value.1 hm
    rcases Outcome.bind_eq_undefined.1 h₁ with ha | ⟨a, ha, h₂⟩
    · obtain ⟨l, rfl, hl⟩ := Json.index_eq_undefined.1 ha
      cases List.eq_nil_of_length_eq_zero (Nat.le_zero.1 hl)
      exact .noFirst hmove
    obtain ⟨l, rfl, ha⟩ := Json.index_eq_value.1 ha
    rcases Outcome.bind_eq_undefined.1 h₂ with hi | ⟨i, hi, h₃⟩
    · exact (a.getUnsigned_ne_undefined lib hi).elim
    rw [hm, Outcome.value_bind] at h₃
    rcases Outcome.bind_eq_undefined.1 h₃ with hb | ⟨b, hb, h₄⟩
    · obtain ⟨l', hl', hl⟩ := Json.index_eq_undefined.1 hb
      cases hl'
      match l with
      | [] => cases ha
      | [_] =>
        cases ha
        exact .noSecond hmove ((a.getUnsigned_isValue lib).1 ⟨i, hi⟩)
      | _ :: _ :: _ =>
        simp only [List.length_cons] at hl
        omega
    · rcases Outcome.bind_eq_undefined.1 h₄ with hj | ⟨j, hj, h₅⟩
      · exact (b.getUnsigned_ne_undefined lib hj).elim
      · cases h₅
  · intro h
    cases h with
    | noMove hmove =>
      simp only [readMove, Json.key_eq_undefined.2 ⟨_, rfl, hmove⟩, Outcome.undefined_bind]
    | noFirst hmove =>
      have ha : (Json.array []).index 0 = .undefined := rfl
      simp only [readMove, Json.key_eq_value.2 ⟨_, rfl, hmove⟩, ha, Outcome.value_bind,
        Outcome.undefined_bind]
    | @noSecond fields a hmove harith =>
      obtain ⟨i, hi⟩ := (a.getUnsigned_isValue lib).2 harith
      have ha : (Json.array [a]).index 0 = .value a := rfl
      have hb : (Json.array [a]).index 1 = .undefined := rfl
      simp only [readMove, Json.key_eq_value.2 ⟨_, rfl, hmove⟩, ha, hb, hi, Outcome.value_bind,
        Outcome.undefined_bind]

theorem readsAs_converted_iff {x y : Fin 3} :
    ReadsAs (Converted lib) data x y ↔
      ∃ i j, readMove lib data = .value (i, j) ∧ i.toNat = x.val ∧ j.toNat = y.val := by
  constructor
  · rintro ⟨fields, a, b, rest, hdata, hmove, ⟨i, hi, hx⟩, ⟨j, hj, hy⟩⟩
    exact ⟨i, j, readMove_eq_value.2 ⟨fields, a, b, rest, hdata, hmove, hi, hj⟩, hx, hy⟩
  · rintro ⟨i, j, h, hx, hy⟩
    obtain ⟨fields, a, b, rest, hdata, hmove, hi, hj⟩ := readMove_eq_value.1 h
    exact ⟨fields, a, b, rest, hdata, hmove, ⟨i, hi, hx⟩, ⟨j, hj, hy⟩⟩

/-- The game after a move of the player to move. -/
def makeMove (g : TicTacToeGame) (x y : Fin 3) (move : Json) : TicTacToeGame :=
  { g with
    board := g.board.move x y (boardValues g.turn)
    turn := g.turn + 1
    moveList := g.moveList ++ [move] }

theorem takeMessage_unchecked {msg : TicTacToeMessage} (h : UncheckedText lib msg)
    (s : TicTacToeGame × List TicTacToeMessage) : takeMessage lib s msg = .undefined := by
  obtain ⟨data, hp, hu⟩ := h
  simp only [takeMessage, hp, playerUpdate, readMove_eq_undefined.2 hu, Outcome.undefined_bind,
    Outcome.catchAll_undefined]

theorem takeMessage_legal (out : List TicTacToeMessage) {msg : TicTacToeMessage}
    {x y : Fin 3} (hp : lib.parse msg.2 = some data)
    (hr : ReadsAs (Converted lib) data x y) (hs : g.started = true) (hd : g.isDone = false)
    (hturn : g.playerList[g.turn.val]? = some msg.1) (he : g.board.getValue x y = emptyVal) :
    ∃ move, data.key "move" = .value move ∧
      takeMessage lib (g, out) msg =
        .value (g.makeMove x y move, out ++ (g.makeMove x y move).broadcast lib
          (g.makeMove x y move).getGameState) := by
  obtain ⟨i, j, hm, hx, hy⟩ := readsAs_converted_iff.1 hr
  obtain ⟨fields, a, b, rest, rfl, hmove, -, -⟩ := readMove_eq_value.1 hm
  have hkey := Json.key_eq_value.2 ⟨fields, rfl, hmove⟩
  have hadd : g.board.addMove i j (boardValues g.turn) =
      (true, g.board.move x y (boardValues g.turn)) :=
    TicTacToeBoard.addMove_eq_true.2 ⟨x, y, hx, hy, he, rfl⟩
  have hgo : (g.started && !g.isDone) = true := by
    rw [hs, hd]
    rfl
  refine ⟨_, hkey, ?_⟩
  simp only [takeMessage, hp, playerUpdate, hm, Outcome.value_bind, hgo, ↓reduceIte, hturn, hadd,
    hkey, Outcome.pure_eq, Outcome.catchAll_value]
  rfl

/-- A move that is read and may not be made is ignored, unless there is no player to move. -/
theorem playerUpdate_refused (out : List TicTacToeMessage) {id : TicTacToePlayer} {i j : UInt32}
    (hm : readMove lib data = .value (i, j))
    (hl : g.started = true → g.isDone = false → g.playerList[g.turn.val]? = some id →
      (g.board.addMove i j (boardValues g.turn)).1 = false) :
    playerUpdate lib g out id data = .value (g, out) ∨
      playerUpdate lib g out id data = .undefined ∧ g.started = true ∧
        g.playerList[g.turn.val]? = none := by
  simp only [playerUpdate, hm, Outcome.value_bind]
  by_cases hgo : (g.started && !g.isDone) = true
  · obtain ⟨hs, hd⟩ : g.started = true ∧ g.isDone = false := by
      simpa only [Bool.and_eq_true, Bool.not_eq_true'] using hgo
    simp only [hgo, ↓reduceIte]
    cases hturn : g.playerList[g.turn.val]? with
    | none => exact .inr ⟨rfl, hs, rfl⟩
    | some player =>
      by_cases hid : id = player
      · have hmade := hl hs hd (hid ▸ hturn)
        generalize g.board.addMove i j (boardValues g.turn) = moved at hmade ⊢
        obtain ⟨made, board⟩ := moved
        cases hmade
        simp only [hid, ↓reduceIte]
        exact .inl rfl
      · simp only [hid, ↓reduceIte]
        exact .inl rfl
  · simp only [hgo, Bool.false_eq_true, ↓reduceIte]
    exact .inl rfl

/-- Every other message that is read is ignored, unless there is no player to move. -/
theorem takeMessage_ignored (out : List TicTacToeMessage) {msg : TicTacToeMessage}
    (hu : ¬ UncheckedText lib msg) (hl : ¬ LegalMove (Converted lib) lib g msg) :
    takeMessage lib (g, out) msg = .value (g, out) ∨
      takeMessage lib (g, out) msg = .undefined ∧ g.started = true ∧
        g.playerList[g.turn.val]? = none := by
  simp only [takeMessage]
  cases hp : lib.parse msg.2 with
  | none => exact .inl rfl
  | some data =>
    cases hm : readMove lib data with
    | undefined => exact (hu ⟨data, hp, readMove_eq_undefined.1 hm⟩).elim
    | thrown e =>
      simp only [playerUpdate, hm]
      exact .inl rfl
    | value ij =>
      apply playerUpdate_refused out hm
      intro hs hd hturn
      cases hadd : g.board.addMove ij.1 ij.2 (boardValues g.turn) with
      | mk made board =>
        cases made with
        | false => rfl
        | true =>
          obtain ⟨x, y, hx, hy, he, -⟩ := TicTacToeBoard.addMove_eq_true.1 hadd
          have hr := readsAs_converted_iff.2 ⟨ij.1, ij.2, hm, hx, hy⟩
          exact (hl ⟨data, x, y, hp, hr, hs, hd, hturn, he⟩).elim

inductive MoveStep (lib : JsonLibrary) (g : TicTacToeGame) : TicTacToeGame → Prop where
  | make {msg : TicTacToeMessage} {data move : Json} {x y : Fin 3} :
      lib.parse msg.2 = some data → ReadsAs (Converted lib) data x y → g.started = true →
      g.isDone = false → g.playerList[g.turn.val]? = some msg.1 →
      g.board.getValue x y = emptyVal → data.key "move" = .value move →
      MoveStep lib g (g.makeMove x y move)

theorem takeMessage_cases {msg : TicTacToeMessage} {s s' : TicTacToeGame × List TicTacToeMessage}
    (h : takeMessage lib s msg = .value s') :
    LegalMove (Converted lib) lib s.1 msg ∧ MoveStep lib s.1 s'.1 ∨
      ¬ LegalMove (Converted lib) lib s.1 msg ∧ s' = s := by
  obtain ⟨g, out⟩ := s
  by_cases hu : UncheckedText lib msg
  · rw [takeMessage_unchecked hu] at h
    cases h
  by_cases hl : LegalMove (Converted lib) lib g msg
  · refine .inl ⟨hl, ?_⟩
    obtain ⟨data, x, y, hp, hr, hs, hd, hturn, he⟩ := hl
    obtain ⟨move, hkey, hmove⟩ := takeMessage_legal out hp hr hs hd hturn he
    rw [hmove] at h
    cases h
    exact .make hp hr hs hd hturn he hkey
  · refine .inr ⟨hl, ?_⟩
    rcases takeMessage_ignored out hu hl with ht | ⟨ht, -⟩
    · rw [ht] at h
      exact (Outcome.value.inj h).symm
    · rw [ht] at h
      cases h

end TicTacToeGame

end WebGameServer
