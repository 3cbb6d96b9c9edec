import WebGameServer.MinimalTemplate.Matchmaker
import WebGameServer.MinimalTemplate.Rooms

namespace WebGameServer
set_option autoImplicit true

open MinimalMatchmaker

section Entrance

variable {Hdl Hdl' Worker Worker' : Type} [DecidableEq Hdl] [DecidableEq Hdl']
  [DecidableEq Worker] [DecidableEq Worker'] {lib : JsonLibrary}
  {mcfg : Config (minimalTraits Hdl)} {gcfg : Config (minimalTraits Hdl')}
  {timestep timestep' : Int}
  {ms : MatchmakingServer (minimalTraits Hdl) MinimalSessionData Worker} {mm : MinimalMatchmaker}
  {gs : GameServer (minimalTraits Hdl') MinimalGame Worker'} {sid pid : UInt64} {data : Json}

/-- The matchmaking server signs its results with `sign`. The tokens for the game server were in
its result texts, where a page finds them by `tokenIn`, and have the player, the session and the
data that `sign` was given. -/
structure SignsRooms (lib : JsonLibrary) (sign : CombinedId (minimalTraits Hdl) → Json → String)
    (tokenIn : String → Option String) (mcfg : Config (minimalTraits Hdl))
    (log : List (Event (minimalTraits Hdl))) (gcfg : Config (minimalTraits Hdl')) : Prop where
  text : ∀ cid data, mcfg.getResultStr cid data = minimalSignGame lib sign cid data
  member : ∀ cid data, tokenIn (minimalSignGame lib sign cid data) = some (sign cid data)
  sent : ∀ token cid data, gcfg.verify token = some (cid, data) →
    ∃ owner str, .result owner str ∈ log ∧ tokenIn str = some token
  reads : ∀ pid sid cid, ∀ data ∈ [gameData, MinimalMatchmaker.getCancelData], ∀ data',
    gcfg.verify (sign ⟨pid, sid⟩ data) = some (cid, data') → cid = ⟨pid, sid⟩ ∧ data' = data

/-- What a player brings to a room: the token for a game with this id, to which a session of the
player was matched, or the one that cancels the session with this id. -/
inductive Brings (mcfg : Config (minimalTraits Hdl))
    (ms : MatchmakingServer (minimalTraits Hdl) MinimalSessionData Worker) (sid pid : UInt64) :
    Json → Prop where
  | matched (game : MatchedGame (minimalTraits Hdl)) (own : UInt64) (hdl : Hdl) :
      game ∈ ms.emitted → game.session = sid → own ∈ game.sessions →
      Presented mcfg ms.base.log hdl ⟨pid, own⟩ → Brings mcfg ms sid pid gameData
  | cancelled (hdl : Hdl) : Presented mcfg ms.base.log hdl ⟨pid, sid⟩ →
      Brings mcfg ms sid pid MinimalMatchmaker.getCancelData

/-- A token that was found in a result text is the one that was signed for it. -/
theorem SignsRooms.signed {cid : CombinedId (minimalTraits Hdl)}
    (hsigns : SignsRooms lib sign tokenIn mcfg log gcfg)
    (hin : tokenIn (mcfg.getResultStr cid data) = some token) : token = sign cid data := by
  rw [hsigns.text, hsigns.member] at hin
  exact (Option.some.inj hin).symm

theorem brings_of_verify (hms : (minimalMatchmakingServer mcfg timestep).Reachable (ms, mm))
    (hsigns : SignsRooms lib sign tokenIn mcfg ms.base.log gcfg)
    (hv : gcfg.verify token = some (⟨pid, sid⟩, data)) : Brings mcfg ms sid pid data := by
  obtain ⟨⟨owner, own⟩, str, hm, hin⟩ := hsigns.sent token _ data hv
  have hserver := minimalMatchmakingServer_project hms
  obtain ⟨r, hr, rfl⟩ := result_source hserver hm
  obtain rfl := hsigns.signed hin
  have hbase := (unstopped_project hserver).of_restrict
  obtain ⟨hdl, hp⟩ := presented_invariant.reachable hbase _ _ hm
  rcases hr with rfl | ⟨game, hg, hsid, rfl⟩
  · have hcancel := List.mem_cons_of_mem gameData
      (List.mem_singleton_self MinimalMatchmaker.getCancelData)
    obtain ⟨hcid, rfl⟩ := hsigns.reads _ _ _ _ hcancel _ hv
    cases hcid
    exact .cancelled hdl hp
  · have hdata := ((numbered_invariant.reachable hms).pairs game hg).1
    rw [hdata] at hv
    obtain ⟨hcid, rfl⟩ := hsigns.reads _ _ _ _ List.mem_cons_self _ hv
    cases hcid
    exact .matched game own hdl hg rfl hsid hp

end Entrance

def entranceConfig : Config (minimalTraits Nat) where
  verify text := if text = "room 0 for ada" then some (⟨1, 0⟩, gameData) else none
  getResultStr _ data := data.render
  sessionReleaseTime := 60000

theorem roomToken_in (cid : CombinedId (minimalTraits Nat)) (data : Json) :
    sampleTokenIn (minimalSignGame sampleLibrary roomToken cid data) =
      some (roomToken cid data) := by
  have hcases : roomToken cid data = "room 0 for ada" ∨ roomToken cid data = "" := by
    unfold roomToken
    split
    · split
      · exact .inl rfl
      · exact .inr rfl
    · exact .inr rfl
  rw [minimalSignGame]
  rcases hcases with h | h
  · rw [h]
    decide +kernel
  · rw [h]
    decide +kernel

theorem entranceConfig_signed {log : List (Event (minimalTraits Nat))}
    (hm : .result ⟨1, 7⟩ (minimalSignGame sampleLibrary roomToken ⟨1, 0⟩ gameData) ∈ log) :
    SignsRooms sampleLibrary roomToken sampleTokenIn lobbyConfig log entranceConfig := by
  have hverify {token : String} {cid : CombinedId (minimalTraits Nat)} {data : Json}
      (hv : entranceConfig.verify token = some (cid, data)) :
      token = "room 0 for ada" ∧ cid = ⟨1, 0⟩ ∧ data = gameData := by
    simp only [entranceConfig] at hv
    split at hv
    · next h =>
      cases hv
      exact ⟨h, rfl, rfl⟩
    · cases hv
  constructor
  · intro cid data
    rfl
  · exact roomToken_in
  · intro token cid data hv
    obtain ⟨rfl, -, -⟩ := hverify hv
    exact ⟨_, _, hm, roomToken_in _ _⟩
  · intro pid sid cid data hdata data' hv
    obtain ⟨htoken, rfl, rfl⟩ := hverify hv
    unfold roomToken at htoken
    split at htoken
    · split at htoken
      · next h => exact ⟨h.symm, rfl⟩
      · simp at htoken
    · simp at htoken

theorem ada_entered :
    ∃ gs : GameServer (minimalTraits Nat) MinimalGame Unit,
      (minimalServer sampleLibrary entranceConfig 0).Reachable gs ∧
      .handleOpen ⟨1, 0⟩ gameData ∈ gs.base.log := by
  have h0 : (minimalServer sampleLibrary entranceConfig 0).Reachable
      (GameServer.start 0 : GameServer (minimalTraits Nat) MinimalGame Unit) := .init ⟨0, rfl⟩
  have hp : PlaysMinimal Nat sampleLibrary (minimalInstance Nat sampleLibrary frontInsertion) :=
    ⟨_, rfl⟩
  have h1 := h0.step ⟨by simp, _, hp, .run (.run rfl)⟩
  have h2 := h1.step ⟨by simp, _, hp, .transport (.onMessage (5 : Nat) "room 0 for ada")⟩
  have h3 := h2.step ⟨by simp, _, hp, .worker () (.enter rfl) nofun⟩
  have h4 := h3.step ⟨by simp, _, hp, .worker () (.pop rfl) nofun⟩
  have h5 := h4.step ⟨by simp, _, hp, .worker () (.messageUnbound rfl rfl) nofun⟩
  have h6 := h5.step ⟨by simp, _, hp, .worker () (.openSession ⟨0, 0⟩ rfl rfl rfl) nofun⟩
  have h7 := h6.step ⟨by simp, _, hp, .worker () .setupConnectionId nofun⟩
  have h8 := h7.step ⟨by simp, _, hp, .worker () .handleOpen nofun⟩
  exact ⟨_, h8, List.mem_append_right _ List.mem_cons_self⟩

section Main

variable {Hdl Hdl' Worker Worker' : Type} [DecidableEq Hdl] [DecidableEq Hdl']
  [DecidableEq Worker] [DecidableEq Worker'] {lib : JsonLibrary}
  {mcfg : Config (minimalTraits Hdl)} {gcfg : Config (minimalTraits Hdl')}
  {timestep timestep' : Int}
  {ms : MatchmakingServer (minimalTraits Hdl) MinimalSessionData Worker} {mm : MinimalMatchmaker}
  {gs : GameServer (minimalTraits Hdl') MinimalGame Worker'}

/-- Who enters a room of the template has logged in to one of the two sessions that were matched to
it, or to the session that has the id of the room, which was cancelled. -/
theorem rooms_entered (hms : (minimalMatchmakingServer mcfg timestep).Reachable (ms, mm))
    (hlen : ms.emitted.length ≤ UInt64.size)
    (hsigns : SignsRooms lib' sign tokenIn mcfg ms.base.log gcfg)
    (hgs : (minimalServer lib gcfg timestep').Reachable gs) (sid : UInt64) :
    ∃ a b : UInt64, ∀ pid data, .handleOpen ⟨pid, sid⟩ data ∈ gs.base.log →
      (data = gameData ∧ ∃ hdl own, (own = a ∨ own = b) ∧
        Presented mcfg ms.base.log hdl ⟨pid, own⟩) ∨
      data = MinimalMatchmaker.getCancelData ∧ ∃ hdl, Presented mcfg ms.base.log hdl ⟨pid, sid⟩ := by
  have hnumbered := numbered_invariant.reachable hms
  have hsessions : ∃ a b : UInt64, ∀ game ∈ ms.emitted, game.session = sid →
      game.sessions = [a, b] := by
    by_cases h : ∃ game ∈ ms.emitted, game.session = sid
    · obtain ⟨game, hg, hsid⟩ := h
      obtain ⟨-, a, b, -, hab⟩ := hnumbered.pairs game hg
      refine ⟨a, b, fun game' hg' hsid' => ?_⟩
      rw [← hab, List.inj_on_of_nodup_map (hnumbered.nodup hlen) hg' hg (hsid'.trans hsid.symm)]
    · exact ⟨0, 0, fun game hg hsid => (h ⟨game, hg, hsid⟩).elim⟩
  obtain ⟨a, b, hab⟩ := hsessions
  refine ⟨a, b, fun pid data hlogin => ?_⟩
  obtain ⟨hdl, token, -, hv⟩ := (authentic_invariant.reachable (varyingServer_base hgs)).log _ hlogin
  cases brings_of_verify hms hsigns hv with
  | matched game own hdl hg hsid hown hp =>
    rw [hab game hg hsid, List.mem_cons, List.mem_singleton] at hown
    exact .inl ⟨rfl, hdl, own, hown, hp⟩
  | cancelled hdl hp => exact .inr ⟨rfl, hdl, hp⟩

/-- Ada enters the room that her session was matched to. -/
theorem rooms_entered_ada :
    ∃ (ms : MatchmakingServer (minimalTraits Nat) MinimalSessionData Unit) (a b : UInt64),
      ∃ hdl own, (own = a ∨ own = b) ∧ Presented lobbyConfig ms.base.log hdl ⟨1, own⟩ := by
  obtain ⟨ms, mm, hms, he, hm⟩ := ada_bob_matched
  obtain ⟨gs, hgs, hlogin⟩ := ada_entered
  have hlen : ms.emitted.length ≤ UInt64.size := he ▸ by decide
  obtain ⟨a, b, h⟩ := rooms_entered hms hlen (entranceConfig_signed hm) hgs 0
  rcases h 1 gameData hlogin with ⟨-, h⟩ | ⟨hdata, -⟩
  · exact ⟨ms, a, b, h⟩
  · simp [gameData, MinimalMatchmaker.getCancelData] at hdata

end Main

end WebGameServer
