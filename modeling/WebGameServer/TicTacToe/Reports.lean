import WebGameServer.TicTacToe.Replay

namespace WebGameServer
set_option autoImplicit true

/-- What a text tells a player, with the game at that moment. -/
inductive Report where
  | times (g : TicTacToeGame)
  | game (g : TicTacToeGame)
  | full (g : TicTacToeGame)

def Report.value (id : TicTacToePlayer) : Report → Json
  | .times g => g.getTimeState id
  | .game g => g.getGameState id
  | .full g => g.getFullState id

def Report.message (lib : JsonLibrary) (r : TicTacToePlayer × Report) : TicTacToeMessage :=
  (r.1, lib.dump (r.2.value r.1))

namespace TicTacToeGame

/-- The reports of the loop that sends a text to each connected player. -/
def reports (g : TicTacToeGame) (r : Report) : List (TicTacToePlayer × Report) :=
  (g.playerList.filter g.isConnected).map fun player => (player, r)

def advanceReports (g : TicTacToeGame) (deltaTime : Int) : List (TicTacToePlayer × Report) :=
  let g := g.runClock deltaTime
  (if 1000 ≤ g.elapsedTime + deltaTime then g.reports (.times g) else []) ++
    if g.isDone then g.reports (.game g) else []

/-- The reports of the moves that are made when the messages are read. -/
def moveReports (lib : JsonLibrary) (s : TicTacToeGame × List TicTacToeMessage) :
    List TicTacToeMessage → List (TicTacToePlayer × Report)
  | [] => []
  | msg :: msgs =>
    match takeMessage lib s msg with
    | .value s' =>
      (if s'.1.moveList.length = s.1.moveList.length then [] else s'.1.reports (.game s'.1)) ++
        moveReports lib s' msgs
    | _ => []

def updateReports (lib : JsonLibrary) (g : TicTacToeGame) (out : List TicTacToeMessage)
    (inMessages : List TicTacToeMessage) (deltaTime count : Int) :
    List (TicTacToePlayer × Report) :=
  if g.started && !g.gameOver then
    g.advanceReports deltaTime ++ moveReports lib (g.advance lib out deltaTime) inMessages
  else if g.valid && decide (1 < g.playerList.length) then
    (g.start lib out count).1.reports (.full (g.start lib out count).1)
  else []

/-- The reports whose texts a call appends to the output vector. -/
def callReports (lib : JsonLibrary) (g : TicTacToeGame) (out : List TicTacToeMessage) :
    TicTacToeCall → List (TicTacToePlayer × Report)
  | .connect id => if g.started then [(id, .full (g.connect lib out id).1)] else []
  | .disconnect _ => []
  | .update inMessages deltaTime count => g.updateReports lib out inMessages deltaTime count

variable {lib : JsonLibrary} {g g' : TicTacToeGame} {out out' : List TicTacToeMessage}
  {msgs : List TicTacToeMessage} {deltaTime count : Int} {c : TicTacToeCall}

theorem broadcast_eq (lib : JsonLibrary) (g : TicTacToeGame) (r : Report) :
    g.broadcast lib (fun id => r.value id) = (g.reports r).map (Report.message lib) := by
  simp only [broadcast, reports, List.map_map]
  rfl

theorem advance_out : (g.advance lib out deltaTime).2 =
    out ++ (g.advanceReports deltaTime).map (Report.message lib) := by
  have htimes (g : TicTacToeGame) :
      g.broadcast lib g.getTimeState = (g.reports (.times g)).map (Report.message lib) :=
    g.broadcast_eq lib (.times g)
  have hgame (g : TicTacToeGame) :
      g.broadcast lib g.getGameState = (g.reports (.game g)).map (Report.message lib) :=
    g.broadcast_eq lib (.game g)
  simp only [advance, advanceReports, List.map_append]
  by_cases ht : 1000 ≤ (g.runClock deltaTime).elapsedTime + deltaTime
  · simp only [ht, ↓reduceIte]
    split
    · next hd =>
      have hd : (g.runClock deltaTime).isDone = true := hd
      rw [if_pos hd, ← htimes, ← hgame, List.append_assoc]
      rfl
    · next hd =>
      have hd : ¬ (g.runClock deltaTime).isDone = true := hd
      rw [if_neg hd, ← htimes, List.map_nil, List.append_nil]
      rfl
  · simp only [ht, ↓reduceIte]
    split
    · next hd =>
      have hd : (g.runClock deltaTime).isDone = true := hd
      rw [if_pos hd, ← hgame, List.map_nil, List.nil_append]
      rfl
    · next hd =>
      have hd : ¬ (g.runClock deltaTime).isDone = true := hd
      rw [if_neg hd, List.map_nil, List.append_nil]
      exact (List.append_nil _).symm

theorem takeMessage_out {s s' : TicTacToeGame × List TicTacToeMessage}
    (h : takeMessage lib s msg = .value s') :
    s'.2 = s.2 ++ List.map (Report.message lib)
      (if s'.1.moveList.length = s.1.moveList.length then [] else s'.1.reports (.game s'.1)) := by
  rcases takeMessage_cases h with ⟨⟨data, x, y, hp, hr, hs, hd, hturn, he⟩, -⟩ | ⟨-, rfl⟩
  · obtain ⟨g, out⟩ := s
    obtain ⟨move, hkey, hmove⟩ := takeMessage_legal out hp hr hs hd hturn he
    cases h.symm.trans hmove
    have hlonger : (g.makeMove x y move).moveList.length ≠ g.moveList.length := by
      simp only [makeMove, List.length_append, List.length_singleton]
      omega
    rw [if_neg hlonger, ← broadcast_eq]
    rfl
  · rw [if_pos rfl, List.map_nil, List.append_nil]

theorem messages_out {s s' : TicTacToeGame × List TicTacToeMessage}
    (h : msgs.foldlM (takeMessage lib) s = .value s') :
    s'.2 = s.2 ++ (moveReports lib s msgs).map (Report.message lib) := by
  induction msgs generalizing s with
  | nil =>
    cases h
    exact (List.append_nil _).symm
  | cons msg msgs ih =>
    rw [List.foldlM_cons] at h
    obtain ⟨s₁, hfirst, hrest⟩ := Outcome.bind_eq_value.1 h
    simp only [moveReports, hfirst, List.map_append]
    rw [ih hrest, takeMessage_out hfirst, List.append_assoc]

theorem call_out (h : g.call lib out c = .value (g', out')) :
    out' = out ++ (g.callReports lib out c).map (Report.message lib) := by
  cases c with
  | connect id =>
    simp only [call, connect] at h
    simp only [callReports, connect]
    by_cases hs : g.started = true
    · simp only [hs, ↓reduceIte] at h ⊢
      cases h
      rfl
    · simp only [hs, Bool.false_eq_true, ↓reduceIte] at h ⊢
      cases h
      exact (List.append_nil _).symm
  | disconnect id =>
    cases h
    exact (List.append_nil _).symm
  | update msgs deltaTime count =>
    simp only [call, update] at h
    simp only [callReports, updateReports]
    split at h
    · next hrun =>
      rw [if_pos hrun, List.map_append, ← List.append_assoc, ← advance_out]
      exact messages_out h
    · next hrun =>
      rw [if_neg hrun]
      split at h
      · next hv =>
        cases h
        rw [if_pos hv]
        have hfull := (g.start lib out count).1.broadcast_eq lib
          (.full (g.start lib out count).1)
        rw [← hfull]
        rfl
      · next hv =>
        cases h
        rw [if_neg hv]
        exact (List.append_nil _).symm

end TicTacToeGame

end WebGameServer
