import WebGameServer.MatchmakingServer.Results
import WebGameServer.MinimalTemplate.Game

namespace WebGameServer
set_option autoImplicit true

/-- `minimal_matchmaker`. -/
structure MinimalMatchmaker where
  sidCount : UInt64

/-- `minimal_matchmaker::session_data`, which keeps nothing of its data. -/
structure MinimalSessionData where

/-- The variables of the loop of `match`. -/
structure MinimalMatching (H : Type) [DecidableEq H] where
  sidCount : UInt64
  sl : List UInt64
  gameList : List (MatchedGame (minimalTraits H))

namespace MinimalMatchmaker

variable {H : Type} [DecidableEq H]

def gameData : Json := .object [("matched", .boolean true)]

def getCancelData : Json := .object [("matched", .boolean false)]

/-- The body of the loop. The list is moved into the game, which leaves it empty. -/
def matchStep (s : MinimalMatching H) (sid : UInt64) : MinimalMatching H :=
  let sl := s.sl ++ [sid]
  if 1 < sl.length then ⟨s.sidCount + 1, [], s.gameList ++ [⟨sl, s.sidCount, gameData⟩]⟩
  else { s with sl := sl }

/-- `match`, with the sessions of the map in the order of its iterator. -/
def matchSessions (mm : MinimalMatchmaker) (gameList : List (MatchedGame (minimalTraits H)))
    (sessionMap : List UInt64) : MinimalMatchmaker × List (MatchedGame (minimalTraits H)) :=
  let s := sessionMap.foldl matchStep ⟨mm.sidCount, [], gameList⟩
  (⟨s.sidCount⟩, s.gameList)

/-- What the loop has made of the sessions that it has seen, with the ids from `n` on. -/
structure Matches (n : Nat) (seen : List UInt64) (s : MinimalMatching H) : Prop where
  count : s.sidCount = .ofNat (n + s.gameList.length)
  numbered : s.gameList.map MatchedGame.session = (List.range' n s.gameList.length).map .ofNat
  pairs : ∀ game ∈ s.gameList, game.data = gameData ∧ ∃ a b, game.sessions = [a, b]
  drawn : s.gameList.flatMap MatchedGame.sessions ++ s.sl = seen
  short : s.sl.length ≤ 1

theorem Matches.start (n : Nat) : Matches n [] (⟨.ofNat n, [], []⟩ : MinimalMatching H) where
  count := rfl
  numbered := rfl
  pairs := List.forall_mem_nil _
  drawn := rfl
  short := Nat.zero_le 1

theorem Matches.step {n : Nat} {seen : List UInt64} {s : MinimalMatching H}
    (h : Matches n seen s) (sid : UInt64) : Matches n (seen ++ [sid]) (matchStep s sid) := by
  obtain ⟨count, sl, games⟩ := s
  have hdrawn := h.drawn
  rcases sl with _ | ⟨a, _ | ⟨b, sl⟩⟩
  · rw [matchStep, if_neg (by simp)]
    exact ⟨h.count, h.numbered, h.pairs, by rw [← hdrawn, List.append_assoc], Nat.le_refl 1⟩
  · rw [matchStep, if_pos (by simp)]
    have hcount := h.count
    have hnumbered := h.numbered
    simp only at hcount hnumbered
    constructor
    · simp only [List.length_append, List.length_singleton, hcount]
      exact (UInt64.ofNat_add (n + games.length) 1).symm
    · simp only [List.map_append, hnumbered, List.length_append, List.length_singleton,
        List.range'_1_concat, List.map_cons, List.map_nil, hcount]
    · intro game hg
      rcases List.mem_append.1 hg with hg | hg
      · exact h.pairs game hg
      · obtain rfl := List.mem_singleton.1 hg
        exact ⟨rfl, a, sid, rfl⟩
    · rw [← hdrawn, List.flatMap_append, List.append_nil, List.append_assoc]
      rfl
    · exact Nat.zero_le 1
  · have hshort := h.short
    simp only [List.length_cons] at hshort
    omega

theorem Matches.foldl {n : Nat} {seen : List UInt64} {s : MinimalMatching H}
    (h : Matches n seen s) (sids : List UInt64) :
    Matches n (seen ++ sids) (sids.foldl matchStep s) := by
  induction sids generalizing seen s with
  | nil => rwa [List.append_nil]
  | cons sid sids ih =>
    have hrest := ih (h.step sid)
    rwa [List.append_assoc] at hrest

theorem matches_matchSessions {n : Nat} {mm : MinimalMatchmaker} (hn : mm.sidCount = .ofNat n)
    (sids : List UInt64) :
    ∃ sl, Matches (H := H) n sids
      ⟨(mm.matchSessions (H := H) [] sids).1.sidCount, sl, (mm.matchSessions [] sids).2⟩ := by
  have h := (Matches.start (H := H) n).foldl sids
  rw [← hn] at h
  exact ⟨_, h⟩

theorem matchSessions_apart (mm : MinimalMatchmaker) {sids : List UInt64} (hn : sids.Nodup) :
    (mm.matchSessions (H := H) [] sids).2.Pairwise MatchedGame.Apart ∧
      ∀ game ∈ (mm.matchSessions (H := H) [] sids).2, game.data = gameData ∧
        (∃ a b, a ≠ b ∧ game.sessions = [a, b]) ∧ ∀ sid ∈ game.sessions, sid ∈ sids := by
  obtain ⟨sl, h⟩ := matches_matchSessions (H := H) UInt64.ofNat_toNat.symm sids
  have hdrawn := h.drawn
  simp only at hdrawn
  have honce := hn
  rw [← hdrawn] at honce
  obtain ⟨hsingle, hapart⟩ := List.nodup_flatMap.1 (List.nodup_append.1 honce).1
  refine ⟨hapart, fun game hg => ?_⟩
  obtain ⟨hdata, a, b, hab⟩ := h.pairs game hg
  refine ⟨hdata, ⟨a, b, ?_, hab⟩, fun sid hsid => ?_⟩
  · have hpair := hsingle game hg
    rw [hab] at hpair
    rintro rfl
    exact (List.nodup_cons.1 hpair).1 List.mem_cons_self
  · rw [← hdrawn]
    exact List.mem_append_left _ (List.mem_flatMap.2 ⟨game, hg, hsid⟩)

end MinimalMatchmaker

open MinimalMatchmaker

/-- `minimal_matchmaker` as the type parameter of the matchmaking server, which passes it empty
lists. It sends no messages. -/
def minimalMatchmaker (H : Type) [DecidableEq H] :
    Matchmaker (minimalTraits H) MinimalSessionData where
  construct _ := ⟨⟩
  isValid _ := true
  getCancelData := MinimalMatchmaker.getCancelData
  returns sessions _ games msgs := msgs = [] ∧ ∃ (mm : MinimalMatchmaker) (order : List UInt64),
    order.Nodup ∧ order.toFinset = sessions.keys ∧ games = (mm.matchSessions [] order).2

section Server

variable {Hdl Worker : Type} [DecidableEq Hdl] [DecidableEq Worker]
  {cfg : Config (minimalTraits Hdl)} {timestep : Int}
  {ms ms' : MatchmakingServer (minimalTraits Hdl) MinimalSessionData Worker}
  {mm mm' : MinimalMatchmaker}

/-- The matchmaker after a step of the server, which may be the one that calls `match`. -/
inductive Counts (ms ms' : MatchmakingServer (minimalTraits Hdl) MinimalSessionData Worker)
    (mm : MinimalMatchmaker) : MinimalMatchmaker → Prop where
  | idle : ms'.emitted = ms.emitted → Counts ms ms' mm mm
  | matched (order : List UInt64) : order.Nodup → order.toFinset = ms.sessionData.keys →
      ms'.emitted = ms.emitted ++ (mm.matchSessions [] order).2 →
      Counts ms ms' mm (mm.matchSessions (H := Hdl) [] order).1

/-- The matchmaking server of the template with its matchmaker, without `stop` and the release of
locks. -/
def minimalMatchmakingServer (cfg : Config (minimalTraits Hdl)) (timestep : Int) :
    LTS (MatchmakingServer (minimalTraits Hdl) MinimalSessionData Worker × MinimalMatchmaker)
      (List (Event (minimalTraits Hdl))) where
  init s := (∃ lastUpdate, s.1 = .start lastUpdate) ∧ s.2 = ⟨0⟩
  step s evs s' := ((matchmakingServer cfg (minimalMatchmaker Hdl) timestep).restrict
    Unstopped).step s.1 evs s'.1 ∧ Counts s.1 s'.1 s.2 s'.2

theorem minimalMatchmakingServer_project
    {s : MatchmakingServer (minimalTraits Hdl) MinimalSessionData Worker × MinimalMatchmaker}
    (h : (minimalMatchmakingServer cfg timestep).Reachable s) :
    ((matchmakingServer cfg (minimalMatchmaker Hdl) timestep).restrict Unstopped).Reachable
      s.1 := by
  apply h.project (f := Prod.fst)
  · exact fun h => h.1
  · exact fun _ h => .inr ⟨_, h.1⟩

structure Numbered (ms : MatchmakingServer (minimalTraits Hdl) MinimalSessionData Worker)
    (mm : MinimalMatchmaker) : Prop where
  count : mm.sidCount = .ofNat ms.emitted.length
  ids : ms.emitted.map MatchedGame.session = (List.range ms.emitted.length).map .ofNat
  pairs : ∀ game ∈ ms.emitted, game.data = gameData ∧ ∃ a b, a ≠ b ∧ game.sessions = [a, b]

theorem numbered_invariant : (minimalMatchmakingServer cfg timestep).Invariant
    fun s : MatchmakingServer (minimalTraits Hdl) MinimalSessionData Worker × MinimalMatchmaker =>
      Numbered s.1 s.2 where
  init := by
    rintro ⟨ms, mm⟩ ⟨⟨t, rfl⟩, rfl⟩
    exact ⟨rfl, rfl, List.forall_mem_nil _⟩
  step := by
    rintro ⟨ms, mm⟩ evs ⟨ms', mm'⟩ - h ⟨-, hcounts⟩
    simp only at h hcounts ⊢
    cases hcounts with
    | idle he =>
      obtain ⟨hcount, hids, hpairs⟩ := h
      rw [← he] at hcount hids hpairs
      exact ⟨hcount, hids, hpairs⟩
    | matched order hn ho he =>
      obtain ⟨sl, hm⟩ := matches_matchSessions (H := Hdl) h.count order
      have hnumbered := hm.numbered
      simp only at hnumbered
      constructor
      · rw [he, List.length_append]
        exact hm.count
      · rw [he, List.map_append, h.ids, hnumbered, ← List.map_append, List.length_append,
          List.range_eq_range', List.range_eq_range']
        have happend := List.range'_append_1 (s := 0) (m := ms.emitted.length)
          (n := (mm.matchSessions (H := Hdl) [] order).2.length)
        rw [Nat.zero_add] at happend
        rw [happend]
      · intro game hg
        rw [he] at hg
        rcases List.mem_append.1 hg with hg | hg
        · exact h.pairs game hg
        · obtain ⟨hdata, hpair, -⟩ := (matchSessions_apart mm hn).2 game hg
          exact ⟨hdata, hpair⟩

omit [DecidableEq Worker] in
theorem Numbered.nodup (h : Numbered ms mm) (hlen : ms.emitted.length ≤ UInt64.size) :
    (ms.emitted.map MatchedGame.session).Nodup := by
  rw [h.ids]
  apply List.Nodup.map_on _ List.nodup_range
  intro i hi j hj he
  have hi := List.mem_range.1 hi
  have hj := List.mem_range.1 hj
  have hnat := congrArg UInt64.toNat he
  rwa [UInt64.toNat_ofNat_of_lt' (by omega), UInt64.toNat_ofNat_of_lt' (by omega)] at hnat

end Server

/-- `sign_game` of the template's `matchmaking_server.cpp`, with `sign` for the token. -/
def minimalSignGame {H : Type} [DecidableEq H] (lib : JsonLibrary)
    (sign : CombinedId (minimalTraits H) → Json → String) (id : CombinedId (minimalTraits H))
    (data : Json) : String :=
  lib.dump (.object [("type", .string "token"), ("token", .string (sign id data))])

/-- A token for Ada and room 0, and an empty one for the rest. -/
def roomToken (cid : CombinedId (minimalTraits Nat)) (data : Json) : String :=
  match data with
  | .object [("matched", .boolean true)] => if cid = ⟨1, 0⟩ then "room 0 for ada" else ""
  | _ => ""

def lobbyConfig : Config (minimalTraits Nat) where
  verify text :=
    if text = "ada" then some (⟨1, 7⟩, .null)
    else if text = "bob" then some (⟨2, 8⟩, .null)
    else none
  getResultStr := minimalSignGame sampleLibrary roomToken
  sessionReleaseTime := 60000

theorem lobby_step {ms ms' : MatchmakingServer (minimalTraits Nat) MinimalSessionData Unit}
    {mm : MinimalMatchmaker} (h : (minimalMatchmakingServer lobbyConfig 0).Reachable (ms, mm))
    (hs : MatchmakingStep lobbyConfig (minimalMatchmaker Nat) 0 ms evs ms')
    (hu : Unstopped ms evs ms') (he : ms'.emitted = ms.emitted) :
    (minimalMatchmakingServer lobbyConfig 0).Reachable (ms', mm) :=
  h.step ⟨⟨hs, hu⟩, .idle he⟩

theorem ada_bob_matched :
    ∃ (ms : MatchmakingServer (minimalTraits Nat) MinimalSessionData Unit) (mm : MinimalMatchmaker),
      (minimalMatchmakingServer lobbyConfig 0).Reachable (ms, mm) ∧
      ms.emitted = [⟨[7, 8], 0, gameData⟩] ∧
      .result ⟨1, 7⟩ (minimalSignGame sampleLibrary roomToken ⟨1, 0⟩ gameData) ∈ ms.base.log := by
  have h0 : (minimalMatchmakingServer lobbyConfig 0).Reachable
      ((MatchmakingServer.start 0 : MatchmakingServer (minimalTraits Nat) MinimalSessionData Unit),
        ⟨0⟩) := .init ⟨⟨0, rfl⟩, rfl⟩
  have h1 := lobby_step h0 (.run (.run rfl)) ⟨by simp, fun _ => id⟩ rfl
  have h2 := lobby_step h1 (.transport (.onMessage (5 : Nat) "ada")) ⟨by simp, fun _ => id⟩ rfl
  have h3 := lobby_step h2 (.transport (.onMessage (6 : Nat) "bob")) ⟨by simp, fun _ => id⟩ rfl
  have h4 := lobby_step h3 (.worker () (.enter rfl) nofun) ⟨by simp, fun _ => id⟩ rfl
  have h5 := lobby_step h4 (.worker () (.pop rfl) nofun) ⟨by simp, fun _ => id⟩ rfl
  have h6 := lobby_step h5 (.worker () (.messageUnbound rfl rfl) nofun)
    ⟨by simp, fun _ => id⟩ rfl
  have h7 := lobby_step h6 (.worker () (.openSession ⟨0, 0⟩ rfl rfl rfl) nofun)
    ⟨by simp, fun _ => id⟩ rfl
  have h8 := lobby_step h7 (.worker () .setupConnectionId nofun) ⟨by simp, fun _ => id⟩ rfl
  have h9 := lobby_step h8 (.worker () .handleOpen nofun) ⟨by simp, fun _ => id⟩ rfl
  have h10 := lobby_step h9 (.worker () (.enter rfl) nofun) ⟨by simp, fun _ => id⟩ rfl
  have h11 := lobby_step h10 (.worker () (.pop rfl) nofun) ⟨by simp, fun _ => id⟩ rfl
  have h12 := lobby_step h11 (.worker () (.messageUnbound rfl rfl) nofun)
    ⟨by simp, fun _ => id⟩ rfl
  have h13 := lobby_step h12 (.worker () (.openSession ⟨0, 0⟩ rfl rfl rfl) nofun)
    ⟨by simp, fun _ => id⟩ rfl
  have h14 := lobby_step h13 (.worker () .setupConnectionId nofun) ⟨by simp, fun _ => id⟩ rfl
  have h15 := lobby_step h14 (.worker () .handleOpen nofun) ⟨by simp, fun _ => id⟩ rfl
  have h16 := lobby_step h15 (.loop rfl (.enter rfl rfl)) ⟨by simp, fun _ => id⟩ rfl
  have h17 := lobby_step h16 (.loop rfl (.canMatch rfl)) ⟨by simp, fun _ => id⟩ rfl
  have h18 := lobby_step h17 (.loop rfl (.swapUpdates 0 rfl (by decide)))
    ⟨by simp, fun _ => id⟩ rfl
  have h19 := lobby_step h18 (.loop rfl (.createSession rfl rfl rfl)) ⟨by simp, fun _ => id⟩ rfl
  have h20 := lobby_step h19 (.loop rfl (.createSession rfl rfl rfl)) ⟨by simp, fun _ => id⟩ rfl
  have h21 := lobby_step h20 (.loop rfl (.clearUpdates rfl)) ⟨by simp, fun _ => id⟩ rfl
  have h22 := lobby_step h21 (.loop rfl (.eraseFinished rfl)) ⟨by simp, fun _ => id⟩ rfl
  have h23 : (minimalMatchmakingServer lobbyConfig 0).Reachable (_, ⟨1⟩) :=
    h22.step ⟨⟨.loop rfl (.matchSessions [⟨[(7 : UInt64), (8 : UInt64)], (0 : UInt64), gameData⟩] []
      rfl ⟨rfl, ⟨0⟩, [7, 8], by decide, by decide, rfl⟩), by simp, fun _ => id⟩,
      .matched [7, 8] (by decide) (by decide) rfl⟩
  have h24 := lobby_step h23 (.loop rfl (.broadcastDone rfl)) ⟨by simp, fun _ => id⟩ rfl
  have h25 := lobby_step h24 (.loop rfl (.takeGame rfl)) ⟨by simp, fun _ => id⟩ rfl
  have h26 := lobby_step h25 (.loop rfl (.endSession rfl (.completeSession ⟨0, 0⟩ _ _ rfl rfl)))
    ⟨by simp, fun _ => id⟩ rfl
  have h27 := lobby_step h26 (.call nofun (.findPlayer (1 : UInt64) (by decide) rfl))
    ⟨by simp, fun _ => id⟩ rfl
  have h28 := lobby_step h27 (.call nofun .closePlayer) ⟨by simp, fun _ => id⟩ rfl
  exact ⟨_, _, h28, rfl, List.mem_append_right _ List.mem_cons_self⟩

section Main

variable {Hdl Worker : Type} [DecidableEq Hdl] [DecidableEq Worker]
  {cfg : Config (minimalTraits Hdl)} {timestep : Int}
  {ms : MatchmakingServer (minimalTraits Hdl) MinimalSessionData Worker} {mm : MinimalMatchmaker}

end Main

end WebGameServer
