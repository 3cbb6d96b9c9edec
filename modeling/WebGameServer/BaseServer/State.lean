import Mathlib.Data.Finset.Lattice.Basic
import WebGameServer.Library.Map

namespace WebGameServer
set_option autoImplicit true

/-- The types that the template parameters `player_traits`, `json_traits` and
`server_config` supply. -/
structure Traits where
  Hdl : Type
  PlayerId : Type
  SessionId : Type
  Json : Type
  [hdlEq : DecidableEq Hdl]
  [playerEq : DecidableEq PlayerId]
  [sessionEq : DecidableEq SessionId]

attribute [instance] Traits.hdlEq Traits.playerEq Traits.sessionEq

structure CombinedId (T : Traits) where
  player : T.PlayerId
  session : T.SessionId
  deriving DecidableEq

inductive ActionType where
  | subscribe
  | unsubscribe
  | inMessage
  | outMessage
  | closeConnection
  deriving DecidableEq

/-- An entry of the work queue. The field `owner` is ghost: it records the client id for
which `send_message` or `complete_session` produced the text. -/
structure Action (T : Traits) where
  type : ActionType
  hdl : T.Hdl
  msg : String := ""
  owner : Option (CombinedId T) := none

structure SessionData (T : Traits) where
  session : T.SessionId
  data : T.Json

/-- Two maps of which the second holds the entries of the previous period. -/
structure BufferedMap (K V : Type) where
  map1 : Map K V
  map2 : Map K V

namespace BufferedMap

variable {K V : Type} [DecidableEq K]

def empty : BufferedMap K V := ⟨∅, ∅⟩

/-- `std::map::insert` keeps an entry that is already present in the first map. -/
def insert (m : BufferedMap K V) (k : K) (v : V) : BufferedMap K V :=
  { m with map1 := m.map1.emplace k v }

/-- `at`, with `none` for the exception `std::out_of_range`. -/
def at? (m : BufferedMap K V) (k : K) : Option V :=
  match m.map1.lookup k with
  | some v => some v
  | none => m.map2.lookup k

def contains (m : BufferedMap K V) (k : K) : Bool :=
  if (m.map1.lookup k).isSome then true else (m.map2.lookup k).isSome

def clear (m : BufferedMap K V) : BufferedMap K V := ⟨∅, m.map1⟩

def Separate (m : BufferedMap K V) : Prop :=
  ∀ k, m.map1.lookup k = none ∨ m.map2.lookup k = none

theorem contains_eq (m : BufferedMap K V) (k : K) : m.contains k = (m.at? k).isSome := by
  cases h : m.map1.lookup k with
  | some v => simp only [contains, at?, h, Option.isSome_some, ↓reduceIte]
  | none => simp only [contains, at?, h, Option.isSome_none, Bool.false_eq_true, ↓reduceIte]

theorem at?_of_contains (m : BufferedMap K V) (h : m.contains k = true) :
    ∃ v, m.at? k = some v :=
  Option.isSome_iff_exists.1 (m.contains_eq k ▸ h)

theorem at?_of_not_contains (m : BufferedMap K V) (h : m.contains k = false) :
    m.at? k = none :=
  Option.isSome_eq_false_iff.1 (m.contains_eq k ▸ h) |> Option.isNone_iff_eq_none.1

theorem contains_of_at? (m : BufferedMap K V) (h : m.at? k = some v) : m.contains k = true := by
  rw [contains_eq, h, Option.isSome_some]

@[simp] theorem at?_empty (k : K) : (empty : BufferedMap K V).at? k = none := rfl

@[simp] theorem at?_clear_clear (m : BufferedMap K V) (k : K) : m.clear.clear.at? k = none := rfl

/-- An entry that survives a rotation was visible before it, with the same value. -/
theorem at?_of_at?_clear (m : BufferedMap K V) (h : m.clear.at? k = some v) :
    m.at? k = some v := by
  have h1 : m.map1.lookup k = some v := h
  simp only [at?, h1]

theorem lookup_none_of_at? (m : BufferedMap K V) (h : m.at? k = none) :
    m.map1.lookup k = none ∧ m.map2.lookup k = none := by
  cases h1 : m.map1.lookup k with
  | some v => simp only [at?, h1, reduceCtorEq] at h
  | none => exact ⟨rfl, by simpa only [at?, h1] using h⟩

theorem at?_insert (m : BufferedMap K V) (h : m.at? k = none) (k' : K) (v : V) :
    (m.insert k v).at? k' = if k' = k then some v else m.at? k' := by
  obtain ⟨h1, h2⟩ := m.lookup_none_of_at? h
  simp only [at?, insert, Map.emplace_absent _ h1, Map.lookup_insert_ite]
  by_cases hk : k' = k
  · simp only [hk, ↓reduceIte]
  · simp only [hk, ↓reduceIte]

theorem Separate.clear {m : BufferedMap K V} : m.clear.Separate := fun _ => .inl rfl

theorem Separate.insert {m : BufferedMap K V} (hm : m.Separate) (h : m.at? k = none) :
    (m.insert k v).Separate := by
  obtain ⟨h1, h2⟩ := m.lookup_none_of_at? h
  intro k'
  simp only [BufferedMap.insert, Map.emplace_absent _ h1, Map.lookup_insert_ite]
  by_cases hk : k' = k
  · exact .inr (hk ▸ h2)
  · simpa only [hk, ↓reduceIte] using hm k'

end BufferedMap

/-- The member of `close_reasons` that supplies the text of a close frame. -/
inductive CloseReason where
  | invalidJwt
  | duplicateConnection
  | serverShutdown
  | sessionComplete
  deriving DecidableEq

/-- The arguments of the constructor, with verification and claim parsing as one function. -/
structure Config (T : Traits) where
  verify : String → Option (CombinedId T × T.Json)
  getResultStr : CombinedId T → T.Json → String
  sessionReleaseTime : Int

/-- The members of `base_server`. The field `sessionLock` names the thread that holds
`m_session_lock` across several steps; the other mutexes are held within one step only. -/
structure Server (T : Traits) (Thread : Type) where
  isRunning : Bool
  newConnections : Finset T.Hdl
  connectionIds : Map T.Hdl (CombinedId T)
  idConnections : Map (CombinedId T) T.Hdl
  lastSessionUpdateTime : Int
  lockedSessions : BufferedMap T.SessionId (SessionData T)
  sessionPlayers : Map T.SessionId (Finset T.PlayerId)
  sessionLock : Option Thread
  actions : List (Action T)
  playerCount : Nat

end WebGameServer
