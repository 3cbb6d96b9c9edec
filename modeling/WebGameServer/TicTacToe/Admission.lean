import WebGameServer.GameServer.Results
import WebGameServer.MatchmakingServer.Results
import WebGameServer.TicTacToe.Matchmaker
import WebGameServer.TicTacToe.Server
import WebGameServer.TicTacToe.Sessions

namespace WebGameServer
set_option autoImplicit true

section Admission

variable {Hdl Hdl' Worker Worker' : Type} [DecidableEq Hdl] [DecidableEq Hdl']
  [DecidableEq Worker] [DecidableEq Worker'] {lib : JsonLibrary} {uninitialised : Int32}
  {v : Verifiers} {rate : Accounts.Rate} {reqs : List HttpRequest}
  {mcfg : Config (ticTacToeTraits Hdl)} {gcfg : Config (ticTacToeTraits Hdl')}
  {timestep timestep' : Int}
  {ms : MatchmakingServer (ticTacToeTraits Hdl) TicTacToeSessionData Worker}
  {gs : GameServer (ticTacToeTraits Hdl') ClockedGame Worker'} {sid pid : UInt64}

/-- The tokens for the matchmaking server were answers to logins. -/
def SignsLogins (v : Verifiers) (rate : Accounts.Rate) (reqs : List HttpRequest)
    (mcfg : Config (ticTacToeTraits Hdl)) : Prop :=
  ∀ token cid data, mcfg.verify token = some (cid, data) →
    Accounts.Issued v rate reqs cid.player cid.session

/-- The tokens for the game server were result texts of the matchmaking server, and have the
player and the session that such a text was made for. -/
structure SignsResults (mcfg : Config (ticTacToeTraits Hdl))
    (log : List (Event (ticTacToeTraits Hdl))) (gcfg : Config (ticTacToeTraits Hdl')) : Prop where
  sent : ∀ token cid data, gcfg.verify token = some (cid, data) → ∃ owner, .result owner token ∈ log
  reads : ∀ token pid sid data pid' sid' data',
    gcfg.verify token = some (⟨pid, sid⟩, data) → token = mcfg.getResultStr ⟨pid', sid'⟩ data' →
    pid = pid' ∧ sid = sid'

/-- The player whose login session is the session of the game, or the one whose login session was
paired with it. -/
inductive Admitted (v : Verifiers) (rate : Accounts.Rate) (reqs : List HttpRequest)
    (games : List (MatchedGame (ticTacToeTraits Hdl))) (sid pid : UInt64) : Prop where
  | first (h : Accounts.Issued v rate reqs pid sid)
  | second (partner : UInt64) (data : Json) (hg : ⟨[sid, partner], sid, data⟩ ∈ games)
      (h : Accounts.Issued v rate reqs pid partner)

theorem ticTacToe_returns {sessions : Map TicTacToeSession TicTacToeSessionData}
    {games : List (MatchedGame (ticTacToeTraits Hdl))}
    (h : (ticTacToeMatchmaker Hdl lib uninitialised).returns sessions t games msgs)
    (hg : game ∈ games) :
    ∃ a b, game = ⟨[a, b], a, TicTacToeMatchmaker.gameData⟩ := by
  obtain ⟨-, mm, mm', entries, -, hmatch⟩ := h
  rcases TicTacToeMatchmaker.matchSessions_eq hmatch with ⟨-, -, rfl⟩ | ⟨-, -, ps, -, rfl⟩
  · cases hg
  · obtain ⟨p, -, rfl⟩ := List.mem_map.1 hg
    exact ⟨p.1.1, p.2.1, rfl⟩

theorem emitted_pair
    (h : ((matchmakingServer mcfg (ticTacToeMatchmaker Hdl lib uninitialised)
      timestep).restrict Unstopped).Reachable ms) (hg : game ∈ ms.emitted) :
    ∃ a b, game = ⟨[a, b], a, TicTacToeMatchmaker.gameData⟩ := by
  obtain ⟨sessions, t, games, msgs, hreturns, hm⟩ := (sourced_invariant.reachable h).returned game hg
  exact ticTacToe_returns hreturns hm

theorem admitted_of_verify
    (hms : ((matchmakingServer mcfg (ticTacToeMatchmaker Hdl lib uninitialised)
      timestep).restrict Unstopped).Reachable ms) (hlogins : SignsLogins v rate reqs mcfg)
    (hresults : SignsResults mcfg ms.base.log gcfg)
    (hv : gcfg.verify token = some (⟨pid, sid⟩, data)) :
    Admitted v rate reqs ms.emitted sid pid := by
  obtain ⟨⟨owner, own⟩, hm⟩ := hresults.sent token _ data hv
  obtain ⟨r, hr, rfl⟩ := result_source hms hm
  obtain ⟨rfl, rfl⟩ := hresults.reads _ _ _ _ _ _ _ hv rfl
  have hbase := (unstopped_project hms).of_restrict
  obtain ⟨hdl, login, data', -, hlogin⟩ := presented_invariant.reachable hbase _ _ hm
  have hissued := hlogins login _ data' hlogin
  rcases hr with rfl | ⟨game, hg, hsid, rfl⟩
  · exact .first hissued
  · obtain ⟨a, b, rfl⟩ := emitted_pair hms hg
    rcases List.mem_cons.1 hsid with rfl | hsid
    · exact .first hissued
    · cases List.mem_singleton.1 hsid
      exact .second _ _ hg hissued

theorem admitted_two (v : Verifiers) (rate : Accounts.Rate) (hlen : reqs.length ≤ UInt64.size)
    {games : List (MatchedGame (ticTacToeTraits Hdl))} (hapart : games.Pairwise MatchedGame.Apart)
    (sid : UInt64) : ∃ p q, ∀ pid, Admitted v rate reqs games sid pid → pid = p ∨ pid = q := by
  have owner (sid : UInt64) : ∃ p, ∀ pid, Accounts.Issued v rate reqs pid sid → pid = p := by
    by_cases h : ∃ p, Accounts.Issued v rate reqs p sid
    · obtain ⟨p, hp⟩ := h
      exact ⟨p, fun pid hpid => Accounts.issued_unique hlen hp hpid⟩
    · exact ⟨0, fun pid hpid => (h ⟨pid, hpid⟩).elim⟩
  have pair : ∃ b, ∀ partner data, ⟨[sid, partner], sid, data⟩ ∈ games → partner = b := by
    by_cases h : ∃ b data, ⟨[sid, b], sid, data⟩ ∈ games
    · obtain ⟨b, data, hb⟩ := h
      refine ⟨b, fun partner data' hp => ?_⟩
      by_contra hne
      have hdisjoint := hapart.forall hb hp (by
        intro he
        cases he
        exact hne rfl)
      exact hdisjoint List.mem_cons_self List.mem_cons_self
    · exact ⟨0, fun partner data hp => (h ⟨partner, data, hp⟩).elim⟩
  obtain ⟨p, hp⟩ := owner sid
  obtain ⟨b, hb⟩ := pair
  obtain ⟨q, hq⟩ := owner b
  refine ⟨p, q, fun pid hpid => ?_⟩
  cases hpid with
  | first h => exact .inl (hp pid h)
  | second partner data hg h =>
    cases hb partner data hg
    exact .inr (hq pid h)

theorem admitted_of_login
    (hms : ((matchmakingServer mcfg (ticTacToeMatchmaker Hdl lib uninitialised)
      timestep).restrict Unstopped).Reachable ms) (hlogins : SignsLogins v rate reqs mcfg)
    (hresults : SignsResults mcfg ms.base.log gcfg)
    (hgs : (ticTacToeServer lib gcfg timestep').Reachable gs)
    (hlogin : .handleOpen ⟨pid, sid⟩ data ∈ gs.base.log) :
    Admitted v rate reqs ms.emitted sid pid := by
  have hbase := varyingServer_base hgs.of_restrict
  obtain ⟨hdl, token, -, hv⟩ := (authentic_invariant.reachable hbase).log _ hlogin
  exact admitted_of_verify hms hlogins hresults hv

theorem playerList_pair {g : TicTacToeGame} (hw : g.WellFormed) (hs : g.started = true)
    (hpq : ∀ pid ∈ g.playerList, pid = p ∨ pid = q) : ∃ a b, g.playerList = [a, b] ∧ a ≠ b := by
  have hseated := hw.seated hs
  have hsub : g.playerList ⊆ [p, q] := by
    intro pid hpid
    rw [List.mem_cons, List.mem_singleton]
    exact hpq pid hpid
  have hle := (hw.nodup.subperm hsub).length_le
  obtain ⟨a, b, hab⟩ := List.length_eq_two.1 (Nat.le_antisymm hle hseated)
  have hnodup := hw.nodup
  rw [hab] at hnodup
  exact ⟨a, b, hab, fun he => (List.nodup_cons.1 hnodup).1 (he ▸ List.mem_cons_self)⟩

end Admission

/-- The token for an account is its number. There is a token for the winner of session 7. -/
def digitVerifiers : Verifiers where
  auth _ token :=
    match token with
    | [c] => some (.ofNat (c.toNat - '0'.toNat))
    | _ => none
  game _ token := if token = "won".toList then some ⟨1, ⟨7, [1, 2], (1, 0)⟩⟩ else none
  matchmaker _ _ := none

/-- Nine players sign up, and all log in, the players 1 and 2 as the last ones. -/
def nineLogins : List HttpRequest :=
  Accounts.sampleRequests ["/signup", "/signup", "/signup", "/signup", "/signup", "/signup",
    "/signup", "/signup", "/signup", "/login/0", "/login/3", "/login/4", "/login/5", "/login/6",
    "/login/7", "/login/8", "/login/1", "/login/2"]

/-- The matchmaking server with the tokens of the players 1 and 2. The texts for the players of
the game in session 7 are those that the game server accepts. -/
def pairConfig : Config (ticTacToeTraits Nat) where
  verify text :=
    if text = "one" then some (⟨1, 7⟩, .object [("rating", .numberInteger 1500)])
    else if text = "two" then some (⟨2, 8⟩, .object [("rating", .numberInteger 1500)])
    else none
  getResultStr cid _ :=
    if cid = ⟨1, 7⟩ then "ada" else if cid = ⟨2, 7⟩ then "bob" else ""
  sessionReleaseTime := 3600000

theorem nineLogins_signed : SignsLogins digitVerifiers Accounts.sampleRate nineLogins pairConfig := by
  intro token cid data hv
  rw [pairConfig] at hv
  simp only at hv
  split at hv
  · cases hv
    exact ⟨nineLogins.take 16, nineLogins[16], 1800, 1500, ⟨nineLogins.drop 17, rfl⟩, rfl⟩
  · split at hv
    · cases hv
      exact ⟨nineLogins.take 17, nineLogins[17], 1800, 1500, ⟨[], rfl⟩, rfl⟩
    · cases hv

theorem one_two_listed (d d' : TicTacToeSessionData) :
    TicTacToeMatchmaker.Lists (((∅ : Map TicTacToeSession TicTacToeSessionData).emplace 7 d).emplace
      8 d') [(7, d), (8, d')] := by
  constructor
  · simp
  · intro sid e
    simp only [Map.lookup_emplace, List.mem_cons, Prod.mk.injEq, List.not_mem_nil, or_false]
    by_cases h8 : sid = 8
    · subst h8
      simp [eq_comm]
    · by_cases h7 : sid = 7
      · subst h7
        simp [eq_comm]
      · simp [h7, h8]

theorem adaBobConfig_signed {log : List (Event (ticTacToeTraits Nat))}
    (hada : .result ⟨1, 7⟩ "ada" ∈ log) (hbob : .result ⟨2, 8⟩ "bob" ∈ log) :
    SignsResults pairConfig log adaBobConfig := by
  have hverify {token : String} {cid : CombinedId (ticTacToeTraits Nat)} {data : Json}
      (hv : adaBobConfig.verify token = some (cid, data)) :
      token = "ada" ∧ cid = ⟨1, 7⟩ ∨ token = "bob" ∧ cid = ⟨2, 7⟩ := by
    simp only [adaBobConfig] at hv
    split at hv
    · next h =>
      cases hv
      exact .inl ⟨h, rfl⟩
    · split at hv
      · next h =>
        cases hv
        exact .inr ⟨h, rfl⟩
      · cases hv
  constructor
  · intro token cid data hv
    rcases hverify hv with ⟨rfl, -⟩ | ⟨rfl, -⟩
    · exact ⟨_, hada⟩
    · exact ⟨_, hbob⟩
  · intro token pid sid data pid' sid' data' hv hs
    rcases hverify hv with ⟨rfl, h⟩ | ⟨rfl, h⟩
    · cases h
      simp only [pairConfig] at hs
      split at hs
      · next h =>
        cases h
        exact ⟨rfl, rfl⟩
      · split at hs <;> simp at hs
    · cases h
      simp only [pairConfig] at hs
      split at hs
      · simp at hs
      · split at hs
        · next h =>
          cases h
          exact ⟨rfl, rfl⟩
        · simp at hs

theorem one_two_matched :
    ∃ ms : MatchmakingServer (ticTacToeTraits Nat) TicTacToeSessionData Unit,
      ((matchmakingServer pairConfig (ticTacToeMatchmaker Nat sampleLibrary 0) 0).restrict
        Unstopped).Reachable ms ∧
      .result ⟨1, 7⟩ "ada" ∈ ms.base.log ∧ .result ⟨2, 8⟩ "bob" ∈ ms.base.log := by
  have h0 : ((matchmakingServer pairConfig (ticTacToeMatchmaker Nat sampleLibrary 0) 0).restrict
      Unstopped).Reachable (MatchmakingServer.start 0 :
        MatchmakingServer (ticTacToeTraits Nat) TicTacToeSessionData Unit) := .init ⟨0, rfl⟩
  have h1 := h0.step ⟨.run (.run rfl), by simp, fun _ => id⟩
  have h2 := h1.step ⟨.transport (.onMessage (5 : Nat) "one"), by simp, fun _ => id⟩
  have h3 := h2.step ⟨.transport (.onMessage (8 : Nat) "two"), by simp, fun _ => id⟩
  have h4 := h3.step ⟨.worker () (.enter rfl) nofun, by simp, fun _ => id⟩
  have h5 := h4.step ⟨.worker () (.pop rfl) nofun, by simp, fun _ => id⟩
  have h6 := h5.step ⟨.worker () (.messageUnbound rfl rfl) nofun, by simp, fun _ => id⟩
  have h7 := h6.step ⟨.worker () (.openSession ⟨0, 0⟩ rfl rfl rfl) nofun, by simp, fun _ => id⟩
  have h8 := h7.step ⟨.worker () .setupConnectionId nofun, by simp, fun _ => id⟩
  have h9 := h8.step ⟨.worker () .handleOpen nofun, by simp, fun _ => id⟩
  have h10 := h9.step ⟨.worker () (.enter rfl) nofun, by simp, fun _ => id⟩
  have h11 := h10.step ⟨.worker () (.pop rfl) nofun, by simp, fun _ => id⟩
  have h12 := h11.step ⟨.worker () (.messageUnbound rfl rfl) nofun, by simp, fun _ => id⟩
  have h13 := h12.step ⟨.worker () (.openSession ⟨0, 0⟩ rfl rfl rfl) nofun, by simp, fun _ => id⟩
  have h14 := h13.step ⟨.worker () .setupConnectionId nofun, by simp, fun _ => id⟩
  have h15 := h14.step ⟨.worker () .handleOpen nofun, by simp, fun _ => id⟩
  have h16 := Unstopped.loop h15 rfl (.enter rfl rfl)
  have h17 := Unstopped.loop h16 rfl (.canMatch rfl)
  have h18 := Unstopped.loop h17 rfl (.swapUpdates 0 rfl (by decide))
  have h19 := Unstopped.loop h18 rfl (.createSession rfl rfl rfl)
  have h20 := Unstopped.loop h19 rfl (.createSession rfl rfl rfl)
  have h21 := Unstopped.loop h20 rfl (.clearUpdates rfl)
  have h22 := Unstopped.loop h21 rfl (.eraseFinished rfl)
  have h23 := Unstopped.loop h22 rfl (.matchSessions
    [⟨[(7 : UInt64), (8 : UInt64)], (7 : UInt64), TicTacToeMatchmaker.gameData⟩] [] rfl
    ⟨rfl, ⟨6000⟩, ⟨0⟩, [(7, ⟨1500⟩), (8, ⟨1500⟩)], one_two_listed _ _, rfl⟩)
  have h24 := Unstopped.loop h23 rfl (.broadcastDone rfl)
  have h25 := Unstopped.loop h24 rfl (.takeGame rfl)
  have h26 := h25.step ⟨.loop rfl (.endSession rfl (.completeSession ⟨0, 0⟩ _ _ rfl rfl)),
    by simp, fun _ => id⟩
  have h27 := h26.step ⟨.call nofun (.findPlayer (1 : UInt64) (by decide) rfl), by simp,
    fun _ => id⟩
  have h28 := h27.step ⟨.call nofun .closePlayer, by simp, fun _ => id⟩
  have h29 := h28.step ⟨.call nofun .lockSession, by simp,
    fun _ => Server.locked_lockSession _ rfl⟩
  have h30 := Unstopped.loop h29 rfl (.pushFinished rfl)
  have h31 := h30.step ⟨.loop rfl (.endSession rfl (.completeSession ⟨0, 0⟩ _ _ rfl rfl)),
    by simp, fun _ => id⟩
  have h32 := h31.step ⟨.call nofun (.findPlayer (2 : UInt64) (by decide) rfl), by simp,
    fun _ => id⟩
  have h33 := h32.step ⟨.call nofun .closePlayer, by simp, fun _ => id⟩
  exact ⟨_, h33, List.mem_of_getElem? (i := 8) rfl, List.mem_of_getElem? (i := 10) rfl⟩

section Matched

variable {Hdl Hdl' Worker Worker' : Type} [DecidableEq Hdl] [DecidableEq Hdl']
  [DecidableEq Worker] [DecidableEq Worker'] {lib : JsonLibrary} {uninitialised : Int32}
  {v : Verifiers} {rate : Accounts.Rate} {reqs : List HttpRequest}
  {mcfg : Config (ticTacToeTraits Hdl)} {gcfg : Config (ticTacToeTraits Hdl')}
  {timestep timestep' : Int}
  {ms : MatchmakingServer (ticTacToeTraits Hdl) TicTacToeSessionData Worker}
  {gs : GameServer (ticTacToeTraits Hdl') ClockedGame Worker'}

/-- Three programs: the accounts answer logins with tokens for the matchmaking server, whose
result texts are tokens for the game server. Then at most two players can ever log in to a session
of the game server: the player of the login session that the session is named after and the player
of the login session that the matchmaker paired with it. They are the players of its games. -/
theorem game_players_matched (hlen : reqs.length ≤ UInt64.size)
    (hms : ((matchmakingServer mcfg (ticTacToeMatchmaker Hdl lib uninitialised)
      timestep).restrict Unstopped).Reachable ms) (hlogins : SignsLogins v rate reqs mcfg)
    (hresults : SignsResults mcfg ms.base.log gcfg)
    (hgs : (ticTacToeServer lib gcfg timestep').Reachable gs) (sid : UInt64) :
    ∃ p q, (∀ pid data, .handleOpen ⟨pid, sid⟩ data ∈ gs.base.log →
        Admitted v rate reqs ms.emitted sid pid ∧ (pid = p ∨ pid = q)) ∧
      ∀ g, gs.games.lookup sid = some g → (∀ pid ∈ g.game.game.playerList, pid = p ∨ pid = q) ∧
        (g.game.game.started = true → ∃ a b, g.game.game.playerList = [a, b] ∧ a ≠ b) := by
  have hapart := (emitted_apart_invariant
    (ticTacToeMatchmaker_draws lib uninitialised)).reachable hms
  obtain ⟨p, q, hpq⟩ := admitted_two v rate hlen hapart sid
  have hlogin : ∀ pid data, .handleOpen ⟨pid, sid⟩ data ∈ gs.base.log →
      Admitted v rate reqs ms.emitted sid pid ∧ (pid = p ∨ pid = q) := by
    intro pid data hm
    have hadmitted := admitted_of_login hms hlogins hresults hgs hm
    exact ⟨hadmitted, hpq pid hadmitted⟩
  refine ⟨p, q, hlogin, fun g hg => ?_⟩
  have hosted := ticTacToeServer_hosted hgs hg
  have hplayers : ∀ pid ∈ g.game.game.playerList, pid = p ∨ pid = q := by
    intro pid hp
    obtain ⟨data, hm⟩ := (hosted_authored hgs hosted).1 pid hp
    exact (hlogin pid data hm).2
  obtain ⟨pid, data, ls, -, -, -, hr⟩ := hosted_run hgs hosted
  have hwf := ticTacToe_wellFormed.reachable (playedGame_of_run hr).of_restrict
  exact ⟨hplayers, fun hs => playerList_pair hwf hs hplayers⟩

/-- The players 1 and 2, who are called Ada and Bob, play in session 7. -/
theorem game_players_matched_started :
    ∃ (gs : GameServer (ticTacToeTraits Nat) ClockedGame Unit)
      (g : Game (ticTacToeTraits Nat) ClockedGame) (p q : UInt64), gs.games.lookup 7 = some g ∧
      g.game.game.started = true ∧ ∃ a b, g.game.game.playerList = [a, b] ∧ a ≠ b ∧
        (a = p ∨ a = q) ∧ (b = p ∨ b = q) := by
  obtain ⟨ms, hms, hada, hbob⟩ := one_two_matched
  obtain ⟨gs, g, hgs, hg, hs, -, -⟩ := odd_started
  have hresults := adaBobConfig_signed hada hbob
  obtain ⟨p, q, -, hgames⟩ :=
    game_players_matched (by decide) hms nineLogins_signed hresults hgs 7
  obtain ⟨hplayers, hpair⟩ := hgames g hg
  obtain ⟨a, b, hab, hne⟩ := hpair hs
  refine ⟨gs, g, p, q, hg, hs, a, b, hab, hne, hplayers a ?_, hplayers b ?_⟩
  · rw [hab]
    exact List.mem_cons_self
  · rw [hab]
    exact List.mem_cons_of_mem _ List.mem_cons_self

end Matched

end WebGameServer
