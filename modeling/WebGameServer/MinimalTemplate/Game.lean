import Mathlib.Data.List.Nodup
import WebGameServer.GameServer.Produced
import WebGameServer.TicTacToe.Json

namespace WebGameServer
set_option autoImplicit true

/-- `minimal_player_traits`, with the connection handles of any endpoint. -/
abbrev minimalTraits (H : Type) [DecidableEq H] : Traits where
  Hdl := H
  PlayerId := UInt64
  SessionId := UInt64
  Json := Json

/-- `minimal_game::message`. -/
abbrev MinimalMessage := UInt64 × String

/-- `minimal_game`. The list has the elements of the unordered set in the order of its iterator. -/
structure MinimalGame where
  playerList : List UInt64
  nodup : playerList.Nodup

/-- The order of an unordered set after the insertion of an element. -/
structure Insertion where
  place : List UInt64 → UInt64 → List UInt64
  perm : ∀ l id, (place l id).Perm (id :: l)

namespace MinimalGame

def construct (_ : Json) : MinimalGame := ⟨[], List.nodup_nil⟩

def connect (order : Insertion) (g : MinimalGame) (id : UInt64) : MinimalGame :=
  if h : id ∈ g.playerList then g
  else ⟨order.place g.playerList id, (order.perm _ _).nodup_iff.2 (List.nodup_cons.2 ⟨h, g.nodup⟩)⟩

def disconnect (g : MinimalGame) (id : UInt64) : MinimalGame :=
  ⟨g.playerList.erase id, g.nodup.erase id⟩

/-- The value `temp` for a message. -/
def relayed (msg : MinimalMessage) : Json :=
  .object [("message", .string msg.2), ("pid", .numberUnsigned msg.1)]

def relayedText (lib : JsonLibrary) (msg : MinimalMessage) : String := lib.dump (relayed msg)

/-- `update`, which changes nothing but the output vector. -/
def update (lib : JsonLibrary) (g : MinimalGame) (outMessages inMessages : List MinimalMessage) :
    List MinimalMessage :=
  inMessages.foldl
    (fun out msg => g.playerList.foldl (fun out pid => out ++ [(pid, relayedText lib msg)]) out)
    outMessages

def isDone (g : MinimalGame) : Bool := g.playerList.isEmpty

def getState : Json := .object [("valid", .boolean true)]

end MinimalGame

section Instance

variable {Hdl : Type} [DecidableEq Hdl]

/-- `minimal_game` as the type parameter of the game server. -/
def minimalInstance (Hdl : Type) [DecidableEq Hdl] (lib : JsonLibrary) (order : Insertion) :
    GameInstance (minimalTraits Hdl) MinimalGame where
  construct := MinimalGame.construct
  isValid _ := true
  connect g out id := (g.connect order id, out)
  disconnect g out id := (g.disconnect id, out)
  update g out msgs _ := (g, g.update lib out msgs)
  isDone := MinimalGame.isDone
  getState _ := MinimalGame.getState

def PlaysMinimal (Hdl : Type) [DecidableEq Hdl] (lib : JsonLibrary)
    (inst : GameInstance (minimalTraits Hdl) MinimalGame) : Prop :=
  ∃ order, inst = minimalInstance Hdl lib order

/-- The game server of the template, without `stop`. -/
def minimalServer {Worker : Type} [DecidableEq Worker] (lib : JsonLibrary)
    (cfg : Config (minimalTraits Hdl)) (timestep : Int) :
    LTS (GameServer (minimalTraits Hdl) MinimalGame Worker) (List (Event (minimalTraits Hdl))) :=
  varyingServer cfg (PlaysMinimal Hdl lib) timestep

end Instance

namespace MinimalGame

variable {Hdl : Type} [DecidableEq Hdl] {lib : JsonLibrary} {order : Insertion} {g : MinimalGame}
  {id : UInt64} {inside : Bool} {calls : List (GameCall (minimalTraits Hdl))}

def stays (id : UInt64) (inside : Bool) : GameCall (minimalTraits Hdl) → Bool
  | .connect id' => inside || id' == id
  | .disconnect id' => inside && id' != id
  | .update _ _ => inside

/-- The player has connected and has not disconnected since. -/
def present (id : UInt64) (calls : List (GameCall (minimalTraits Hdl))) : Bool :=
  calls.foldl (stays id) false

/-- The texts for all messages that a call passes to the room. -/
def spokenIn (lib : JsonLibrary) : GameCall (minimalTraits Hdl) → List String
  | .update msgs _ => msgs.map (relayedText lib)
  | _ => []

/-- The texts for the messages that are passed to the room while the player is in it. -/
def heardFrom (lib : JsonLibrary) (id : UInt64) :
    Bool → List (GameCall (minimalTraits Hdl)) → List String
  | _, [] => []
  | inside, c :: calls =>
    (if inside then spokenIn lib c else []) ++ heardFrom lib id (stays id inside c) calls

def heard (lib : JsonLibrary) (id : UInt64) (calls : List (GameCall (minimalTraits Hdl))) :
    List String :=
  heardFrom lib id false calls

def spoken (lib : JsonLibrary) (calls : List (GameCall (minimalTraits Hdl))) : List String :=
  calls.flatMap (spokenIn lib)

def textsFor (id : UInt64) (msgs : List MinimalMessage) : List String :=
  msgs.filterMap fun msg => if msg.1 = id then some msg.2 else none

theorem textsFor_append (msgs msgs' : List MinimalMessage) :
    textsFor id (msgs ++ msgs') = textsFor id msgs ++ textsFor id msgs' :=
  List.filterMap_append

theorem present_append (c : GameCall (minimalTraits Hdl)) :
    present id (calls ++ [c]) = stays id (present id calls) c := by
  rw [present, List.foldl_append]
  rfl

theorem heardFrom_append (c : GameCall (minimalTraits Hdl)) :
    heardFrom lib id inside (calls ++ [c]) = heardFrom lib id inside calls ++
      if calls.foldl (stays id) inside then spokenIn lib c else [] := by
  induction calls generalizing inside with
  | nil => exact List.append_nil _
  | cons c' calls ih =>
    rw [List.cons_append, heardFrom, ih, heardFrom]
    exact (List.append_assoc _ _ _).symm

theorem heardFrom_sublist : (heardFrom lib id inside calls).Sublist (spoken lib calls) := by
  induction calls generalizing inside with
  | nil => exact List.Sublist.refl _
  | cons c calls ih =>
    rw [heardFrom, spoken, List.flatMap_cons]
    apply List.Sublist.append _ ih
    split
    · exact List.Sublist.refl _
    · exact List.nil_sublist _

theorem mem_connect {id' : UInt64} :
    id' ∈ (g.connect order id).playerList ↔ id' ∈ g.playerList ∨ id = id' := by
  rw [connect]
  split
  · next h =>
    constructor
    · exact .inl
    · intro hm
      rcases hm with hm | rfl
      · exact hm
      · exact h
  · rw [(order.perm _ _).mem_iff, List.mem_cons, or_comm, eq_comm]

theorem mem_disconnect {id' : UInt64} :
    id' ∈ (g.disconnect id).playerList ↔ id' ∈ g.playerList ∧ id ≠ id' := by
  rw [disconnect, g.nodup.mem_erase_iff, and_comm, ne_comm]

theorem foldl_players (text : String) (players : List UInt64) (out : List MinimalMessage) :
    players.foldl (fun out pid => out ++ [(pid, text)]) out = out ++ players.map (·, text) := by
  induction players generalizing out with
  | nil => exact (List.append_nil _).symm
  | cons pid players ih =>
    rw [List.foldl_cons, ih, List.append_assoc, List.map_cons]
    rfl

theorem update_eq (out msgs : List MinimalMessage) :
    g.update lib out msgs =
      out ++ msgs.flatMap fun msg => g.playerList.map (·, relayedText lib msg) := by
  rw [update]
  induction msgs generalizing out with
  | nil => exact (List.append_nil _).symm
  | cons msg msgs ih =>
    rw [List.foldl_cons, ih, foldl_players, List.append_assoc, List.flatMap_cons]

theorem textsFor_players {players : List UInt64} (hn : players.Nodup) (text : String) :
    textsFor id (players.map (·, text)) = if id ∈ players then [text] else [] := by
  induction players with
  | nil => rfl
  | cons pid players ih =>
    obtain ⟨hp, hn⟩ := List.nodup_cons.1 hn
    have ih := ih hn
    rw [textsFor] at ih ⊢
    rw [List.map_cons, List.filterMap_cons]
    by_cases h : pid = id
    · subst h
      rw [if_neg hp] at ih
      simp only [↓reduceIte, ih, List.mem_cons, true_or]
    · have hne : id ≠ pid := fun he => h he.symm
      simp only [h, ↓reduceIte, ih, List.mem_cons, hne, false_or]

theorem textsFor_update (msgs : List MinimalMessage) :
    textsFor id (msgs.flatMap fun msg => g.playerList.map (·, relayedText lib msg)) =
      if id ∈ g.playerList then msgs.map (relayedText lib) else [] := by
  induction msgs with
  | nil => exact (ite_self _).symm
  | cons msg msgs ih =>
    rw [List.flatMap_cons, textsFor_append, ih, textsFor_players g.nodup]
    split
    · rfl
    · rfl

end MinimalGame

end WebGameServer
