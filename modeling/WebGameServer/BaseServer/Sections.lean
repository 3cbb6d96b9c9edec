import WebGameServer.BaseServer.State

namespace WebGameServer
set_option autoImplicit true

/-- The two readings of the clock in one call of `update_session_locks`, in nanoseconds. -/
structure ClockReadings where
  first : Int
  second : Int

/-- `--` on a `std::size_t`. Entries of maps in memory cannot exhaust the type, so only
a decrement of zero wraps. -/
def sizeDecrement (n : Nat) : Nat := if n = 0 then 2 ^ 64 - 1 else n - 1

theorem sizeDecrement_pos (h : 0 < n) : sizeDecrement n = n - 1 :=
  if_neg (Nat.pos_iff_ne_zero.1 h)

namespace Server

variable {T : Traits} {Thread : Type}

@[simp] def push (s : Server T Thread) (a : Action T) : Server T Thread :=
  { s with actions := s.actions ++ [a] }

/-- `duration_cast` truncates the elapsed time to whole milliseconds. -/
def updateSessionLocks (s : Server T Thread) (releaseTime : Int) (c : ClockReadings) :
    Server T Thread :=
  let deltaTime := (c.first - s.lastSessionUpdateTime).tdiv 1000000
  if deltaTime > releaseTime then
    { s with
      lockedSessions :=
        (if deltaTime > 2 * releaseTime then s.lockedSessions.clear
          else s.lockedSessions).clear
      lastSessionUpdateTime := c.second }
  else s

def duplicateOf (s : Server T Thread) (id : CombinedId T) : Option T.Hdl :=
  s.idConnections.lookup id

def setupConnectionId (s : Server T Thread) (hdl : T.Hdl) (id : CombinedId T) :
    Server T Thread :=
  match s.duplicateOf id with
  | some old =>
    { s with
      connectionIds := Map.emplace (s.connectionIds.erase old) hdl id
      idConnections := Map.emplace (s.idConnections.erase id) id hdl
      newConnections := s.newConnections.erase hdl }
  | none =>
    { s with
      playerCount := s.playerCount + 1
      connectionIds := Map.emplace s.connectionIds hdl id
      idConnections := Map.emplace s.idConnections id hdl
      newConnections := s.newConnections.erase hdl }

/-- `m_session_players[id.session].insert(id.player)`. -/
@[simp] def insertPlayer (s : Server T Thread) (id : CombinedId T) : Server T Thread :=
  { s with
    sessionPlayers := s.sessionPlayers.insert id.session
      (insert id.player ((s.sessionPlayers.lookup id.session).getD ∅)) }

/-- The section of `player_disconnect` under `m_connection_lock`. -/
@[simp] def disconnectConnection (s : Server T Thread) (hdl : T.Hdl) (id : CombinedId T) :
    Server T Thread :=
  { s with
    connectionIds := s.connectionIds.erase hdl
    idConnections := s.idConnections.erase id }

/-- The section of `player_disconnect` under `m_session_lock`. -/
def disconnectSession (s : Server T Thread) (id : CombinedId T) : Server T Thread :=
  match s.sessionPlayers.lookup id.session with
  | some players =>
    { s with
      sessionPlayers :=
        if players.erase id.player = ∅ then s.sessionPlayers.erase id.session
        else s.sessionPlayers.insert id.session (players.erase id.player) }
  | none => s

/-- The players that `complete_session` iterates over. -/
def playersOf (s : Server T Thread) (sid : T.SessionId) : Finset T.PlayerId :=
  (s.sessionPlayers.lookup sid).getD ∅

def isLocked (s : Server T Thread) (sid : T.SessionId) : Bool := s.lockedSessions.contains sid

@[simp] def lockSession (s : Server T Thread) (sid : T.SessionId) (result : SessionData T) :
    Server T Thread :=
  { s with lockedSessions := s.lockedSessions.insert sid result }

/-- The handles that `stop` collects from the queue and the maps and then closes. -/
def openHdls (s : Server T Thread) : Finset T.Hdl :=
  s.newConnections ∪ s.connectionIds.keys ∪
    ((s.actions.filter fun a => a.type = .subscribe ∨ a.type = .closeConnection).map
      Action.hdl).toFinset

/-- The section of `stop` under the three locks. -/
@[simp] def clearAll (s : Server T Thread) : Server T Thread :=
  { s with
    actions := []
    playerCount := 0
    connectionIds := ∅
    idConnections := ∅
    newConnections := ∅
    lockedSessions := s.lockedSessions.clear.clear
    sessionPlayers := ∅ }

section Frames

variable (s : Server T Thread)

theorem updateSessionLocks_eq (releaseTime : Int) (c : ClockReadings) :
    s.updateSessionLocks releaseTime c =
      { s with
        lockedSessions := (s.updateSessionLocks releaseTime c).lockedSessions
        lastSessionUpdateTime :=
          (s.updateSessionLocks releaseTime c).lastSessionUpdateTime } := by
  simp only [updateSessionLocks]
  split <;> rfl

@[simp] theorem updateSessionLocks_isRunning :
    (s.updateSessionLocks r c).isRunning = s.isRunning := by rw [updateSessionLocks_eq]

@[simp] theorem updateSessionLocks_newConnections :
    (s.updateSessionLocks r c).newConnections = s.newConnections := by
  rw [updateSessionLocks_eq]

@[simp] theorem updateSessionLocks_connectionIds :
    (s.updateSessionLocks r c).connectionIds = s.connectionIds := by
  rw [updateSessionLocks_eq]

@[simp] theorem updateSessionLocks_idConnections :
    (s.updateSessionLocks r c).idConnections = s.idConnections := by
  rw [updateSessionLocks_eq]

@[simp] theorem updateSessionLocks_sessionPlayers :
    (s.updateSessionLocks r c).sessionPlayers = s.sessionPlayers := by
  rw [updateSessionLocks_eq]

@[simp] theorem updateSessionLocks_sessionLock :
    (s.updateSessionLocks r c).sessionLock = s.sessionLock := by rw [updateSessionLocks_eq]

@[simp] theorem updateSessionLocks_actions :
    (s.updateSessionLocks r c).actions = s.actions := by rw [updateSessionLocks_eq]

@[simp] theorem updateSessionLocks_playerCount :
    (s.updateSessionLocks r c).playerCount = s.playerCount := by rw [updateSessionLocks_eq]

theorem at?_of_updateSessionLocks
    (h : (s.updateSessionLocks r c).lockedSessions.at? sid = some v) :
    s.lockedSessions.at? sid = some v := by
  simp only [updateSessionLocks] at h
  split at h
  · split at h
    · exact s.lockedSessions.at?_of_at?_clear (BufferedMap.at?_of_at?_clear _ h)
    · exact s.lockedSessions.at?_of_at?_clear h
  · exact h

theorem locked_lockSession (h : s.lockedSessions.at? sid = none)
    (h' : s.lockedSessions.at? sid' ≠ none) :
    (s.lockSession sid result).lockedSessions.at? sid' ≠ none := by
  simp only [lockSession, s.lockedSessions.at?_insert h]
  split
  · exact nofun
  · exact h'

theorem setupConnectionId_eq (hdl : T.Hdl) (id : CombinedId T) :
    s.setupConnectionId hdl id =
      { s with
        connectionIds := (s.setupConnectionId hdl id).connectionIds
        idConnections := (s.setupConnectionId hdl id).idConnections
        newConnections := s.newConnections.erase hdl
        playerCount := (s.setupConnectionId hdl id).playerCount } := by
  simp only [setupConnectionId]
  split <;> rfl

@[simp] theorem setupConnectionId_isRunning :
    (s.setupConnectionId hdl cid).isRunning = s.isRunning := by rw [setupConnectionId_eq]

@[simp] theorem setupConnectionId_newConnections :
    (s.setupConnectionId hdl cid).newConnections = s.newConnections.erase hdl := by
  rw [setupConnectionId_eq]

@[simp] theorem setupConnectionId_lockedSessions :
    (s.setupConnectionId hdl cid).lockedSessions = s.lockedSessions := by
  rw [setupConnectionId_eq]

@[simp] theorem setupConnectionId_sessionPlayers :
    (s.setupConnectionId hdl cid).sessionPlayers = s.sessionPlayers := by
  rw [setupConnectionId_eq]

@[simp] theorem setupConnectionId_sessionLock :
    (s.setupConnectionId hdl cid).sessionLock = s.sessionLock := by rw [setupConnectionId_eq]

@[simp] theorem setupConnectionId_actions :
    (s.setupConnectionId hdl cid).actions = s.actions := by rw [setupConnectionId_eq]

theorem lookup_idConnections_setup (hdl : T.Hdl) (id id' : CombinedId T) :
    (s.setupConnectionId hdl id).idConnections.lookup id' =
      if id' = id then some hdl else s.idConnections.lookup id' := by
  simp only [setupConnectionId]
  split
  · rw [Map.emplace_absent _ (Finmap.lookup_erase id _), Map.lookup_insert_ite,
      Map.lookup_erase_ite]
    by_cases h : id' = id
    · simp only [h, ↓reduceIte]
    · simp only [h, ↓reduceIte]
  · next h => rw [Map.emplace_absent _ h, Map.lookup_insert_ite]

theorem lookup_connectionIds_setup (h : s.connectionIds.lookup hdl = none) (id : CombinedId T)
    (a : T.Hdl) :
    (s.setupConnectionId hdl id).connectionIds.lookup a =
      if a = hdl then some id
      else if s.idConnections.lookup id = some a then none
      else s.connectionIds.lookup a := by
  simp only [setupConnectionId, duplicateOf]
  split
  · next old ho =>
    have he : Finmap.lookup hdl (s.connectionIds.erase old) = none := by
      rw [Map.lookup_erase_ite, h, ite_self]
    rw [Map.emplace_absent _ he, Map.lookup_insert_ite, Map.lookup_erase_ite, ho]
    simp only [Option.some.injEq, eq_comm]
  · next hn =>
    rw [Map.emplace_absent _ h, Map.lookup_insert_ite, hn]
    simp only [reduceCtorEq, ↓reduceIte]

theorem connectionIds_of_setup (hdl : T.Hdl) (id : CombinedId T)
    (he : (s.setupConnectionId hdl id).connectionIds.lookup a = some i) :
    (a = hdl ∧ i = id) ∨
      (s.connectionIds.lookup a = some i ∧ s.idConnections.lookup id ≠ some a) := by
  simp only [setupConnectionId, duplicateOf] at he
  split at he
  · next old ho =>
    rcases Map.of_lookup_emplace he with hnew | he
    · exact .inl hnew
    · rw [Map.lookup_erase_ite] at he
      split at he
      · cases he
      · next ha => exact .inr ⟨he, fun h => ha (Option.some.inj (h.symm.trans ho))⟩
  · next hn =>
    rcases Map.of_lookup_emplace he with hnew | he
    · exact .inl hnew
    · exact .inr ⟨he, hn ▸ nofun⟩

theorem setupConnectionId_balance (hdl : T.Hdl) (id : CombinedId T) :
    (s.setupConnectionId hdl id).playerCount + s.idConnections.keys.card =
      s.playerCount + (s.setupConnectionId hdl id).idConnections.keys.card := by
  simp only [setupConnectionId, duplicateOf]
  split
  · next old ho =>
    have he := Finmap.lookup_erase id s.idConnections
    have hc := Map.card_insert_absent (k := id) (v := hdl) (s.idConnections.erase id) he
    have hk := Map.card_erase_present (k := id) s.idConnections ho
    simp only [Map.emplace_absent _ he]
    omega
  · next hn =>
    have hc := Map.card_insert_absent (k := id) (v := hdl) s.idConnections hn
    simp only [Map.emplace_absent _ hn]
    omega

theorem inverse_setupConnectionId (h : Map.Inverse s.connectionIds s.idConnections)
    (hu : s.connectionIds.lookup hdl = none) (id : CombinedId T) :
    Map.Inverse (s.setupConnectionId hdl id).connectionIds
      (s.setupConnectionId hdl id).idConnections := by
  simp only [setupConnectionId, duplicateOf]
  split
  · next old ho =>
    have he := h.erase ((h old id).2 ho)
    have hu' : Finmap.lookup hdl (s.connectionIds.erase old) = none := by
      rw [Map.lookup_erase_ite, hu, ite_self]
    have hn := Finmap.lookup_erase id s.idConnections
    simp only [Map.emplace_absent _ hu', Map.emplace_absent _ hn]
    exact he.insert hu' hn
  · next hn =>
    simp only [Map.emplace_absent _ hu, Map.emplace_absent _ hn]
    exact h.insert hu hn

@[simp] theorem disconnectSession_isRunning :
    (s.disconnectSession cid).isRunning = s.isRunning := by
  simp only [disconnectSession]; split <;> rfl

@[simp] theorem disconnectSession_newConnections :
    (s.disconnectSession cid).newConnections = s.newConnections := by
  simp only [disconnectSession]; split <;> rfl

@[simp] theorem disconnectSession_connectionIds :
    (s.disconnectSession cid).connectionIds = s.connectionIds := by
  simp only [disconnectSession]; split <;> rfl

@[simp] theorem disconnectSession_idConnections :
    (s.disconnectSession cid).idConnections = s.idConnections := by
  simp only [disconnectSession]; split <;> rfl

@[simp] theorem disconnectSession_lockedSessions :
    (s.disconnectSession cid).lockedSessions = s.lockedSessions := by
  simp only [disconnectSession]; split <;> rfl

@[simp] theorem disconnectSession_sessionLock :
    (s.disconnectSession cid).sessionLock = s.sessionLock := by
  simp only [disconnectSession]; split <;> rfl

@[simp] theorem disconnectSession_actions :
    (s.disconnectSession cid).actions = s.actions := by
  simp only [disconnectSession]; split <;> rfl

@[simp] theorem disconnectSession_playerCount :
    (s.disconnectSession cid).playerCount = s.playerCount := by
  simp only [disconnectSession]; split <;> rfl

end Frames

section Players

variable (s : Server T Thread)

theorem mem_playersOf_insertPlayer (id : CombinedId T) :
    p ∈ (s.insertPlayer id).playersOf sid ↔ ⟨p, sid⟩ = id ∨ p ∈ s.playersOf sid := by
  cases id with
  | mk q sid' =>
    simp only [playersOf, insertPlayer, Map.lookup_insert_ite, CombinedId.mk.injEq]
    by_cases h : sid = sid'
    · subst h
      simp only [↓reduceIte, Option.getD_some, Finset.mem_insert, and_true]
    · simp only [h, ↓reduceIte, and_false, false_or]

theorem mem_playersOf_disconnectSession (id : CombinedId T) :
    p ∈ (s.disconnectSession id).playersOf sid ↔ p ∈ s.playersOf sid ∧ ⟨p, sid⟩ ≠ id := by
  cases id with
  | mk q sid' =>
    simp only [playersOf, disconnectSession, ne_eq, CombinedId.mk.injEq]
    cases hs : s.sessionPlayers.lookup sid' with
    | none =>
      by_cases h : sid = sid'
      · subst h
        simp only [hs, Option.getD_none, Finset.notMem_empty, false_and]
      · simp only [h, and_false, not_false_eq_true, and_true]
    | some players =>
      by_cases h : sid = sid'
      · subst h
        by_cases he : players.erase q = ∅
        · simp only [he, ↓reduceIte, Finmap.lookup_erase, Option.getD_none,
            Finset.notMem_empty, hs, Option.getD_some, and_true, false_iff]
          rintro ⟨hp, hq⟩
          exact Finset.notMem_empty p (he ▸ Finset.mem_erase.2 ⟨hq, hp⟩)
        · simp only [he, ↓reduceIte, Finmap.lookup_insert, Option.getD_some,
            Finset.mem_erase, hs, and_true]
          exact and_comm
      · by_cases he : players.erase q = ∅ <;>
          simp only [he, ↓reduceIte, Map.lookup_erase_ite, Map.lookup_insert_ite, h,
            and_false, not_false_eq_true, and_true]

def NoEmptySession (s : Server T Thread) : Prop :=
  ∀ sid, s.sessionPlayers.lookup sid ≠ some ∅

theorem NoEmptySession.insertPlayer {s : Server T Thread} (h : s.NoEmptySession)
    (id : CombinedId T) : (s.insertPlayer id).NoEmptySession := by
  intro sid
  simp only [Server.insertPlayer, Map.lookup_insert_ite]
  by_cases hs : sid = id.session
  · rw [if_pos hs]
    simp only [ne_eq, Option.some.injEq, Finset.insert_ne_empty, not_false_eq_true]
  · rw [if_neg hs]
    exact h sid

theorem NoEmptySession.disconnectSession {s : Server T Thread} (h : s.NoEmptySession)
    (id : CombinedId T) : (s.disconnectSession id).NoEmptySession := by
  intro sid
  simp only [Server.disconnectSession]
  split
  · next players hp =>
    by_cases he : players.erase id.player = ∅
    · simp only [he, ↓reduceIte, Map.lookup_erase_ite]
      split
      · simp only [ne_eq, reduceCtorEq, not_false_eq_true]
      · exact h sid
    · simp only [he, ↓reduceIte, Map.lookup_insert_ite]
      split
      · simpa only [ne_eq, Option.some.injEq] using he
      · exact h sid
  · exact h sid

end Players

end Server

end WebGameServer
