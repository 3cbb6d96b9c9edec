import WebGameServer.TicTacToe.Refinement

namespace WebGameServer
set_option autoImplicit true

/-- The game, the page of a player with one connection, and what is on the way in both
directions. The field `informed` is ghost: the page has been told the seat of the player. -/
structure Play where
  game : TicTacToeGame
  page : GameData
  down : List Report
  up : List (Fin 9)
  informed : Bool

inductive PlayLabel where
  | call (c : TicTacToeCall)
  | receive
  | tick
  | click (square : Fin 9)

/-- A call passes on the texts of the player in order and appends the reports of which the texts
are sent to the page. Between two calls the page receives texts, counts down a clock and sends
the moves that the player clicks. -/
inductive PlayStep (lib : JsonLibrary) (parse : String → Option Json) (id : TicTacToePlayer) :
    Play → PlayLabel → Play → Prop where
  | call (c : TicTacToeCall) (taken : List (Fin 9)) : c ≠ .connect id → c ≠ .disconnect id →
      s.game.call lib [] c = .value (game, out) → s.up = taken ++ up →
      c.textsOf id = taken.map GameData.moveText →
      PlayStep lib parse id s (.call c)
        { s with
          game := game
          down := s.down ++ reportsTo id (s.game.callReports lib [] c)
          up := up }
  | receive : s.down = r :: down → parse (lib.dump (r.value id)) = some data →
      s.page.parseUpdate data = some page →
      PlayStep lib parse id s .receive
        { s with page := page, down := down, informed := s.informed || r.isFull }
  | tick : PlayStep lib parse id s .tick { s with page := s.page.updateGame }
  | click (square : Fin 9) : s.page.enabled = true → s.page.onClick square = some page →
      PlayStep lib parse id s (.click square)
        { s with page := page, up := s.up ++ [square] }

/-- The game is not updated once it is done, `JSON.parse` reads the values that the texts were
made from, and the player does not click before the page knows the seat. -/
def Follows (lib : JsonLibrary) (parse : String → Option Json) (id : TicTacToePlayer) (s : Play) :
    PlayLabel → Play → Prop
  | .call c, _ => s.game.Undone c
  | .receive, _ => ∀ r ∈ s.down.head?, parse (lib.dump (r.value id)) = some (r.value id)
  | .tick, _ => True
  | .click _, _ => s.informed = true

/-- The first connection of one of the first two players of a game. -/
def playing (lib : JsonLibrary) (parse : String → Option Json) (id : TicTacToePlayer) :
    LTS Play PlayLabel where
  init s := ∃ g, (playedGame lib).Reachable g ∧ g.dataMap.lookup id = none ∧
    g.playerList.length < 2 ∧ s = ⟨(g.connect lib [] id).1, .new, [], [], false⟩
  step s l s' := PlayStep lib parse id s l s' ∧ Follows lib parse id s l s'

open TicTacToeGame

/-- What the page has been told, once it knows the seat. -/
def Play.shown (s : Play) : Option PageView := if s.informed then some s.page.view else none

structure Play.Shows (lib : JsonLibrary) (id : TicTacToePlayer) (seat : Fin 2) (s : Play) :
    Prop where
  seated : Seated lib id seat s.game
  sound : ∀ r ∈ s.down, r.Sound lib id seat
  player : s.informed = true → s.page.player = seat.val
  first : s.informed = false → ∃ g rest, s.down = .full g :: rest
  replica : ticTacToeReplica.system.Reachable
    ⟨s.game.view seat, views seat s.down, s.shown, s.up⟩

inductive Play.Attends (lib : JsonLibrary) (id : TicTacToePlayer) (s : Play) : Prop where
  | waiting : Waiting id s.game → s.down = [] → s.up = [] → s.informed = false → Attends lib id s
  | shows (seat : Fin 2) : s.Shows lib id seat → Attends lib id s

namespace Play

variable {lib : JsonLibrary} {parse : String → Option Json} {id : TicTacToePlayer}
  {g : TicTacToeGame} {seat : Fin 2} {s s' : Play} {out : List TicTacToeMessage}

theorem Shows.call {taken up : List (Fin 9)} {sent : List Report} (h : s.Shows lib id seat)
    (hr : Refines lib id seat taken sent s.game g) (hup : s.up = taken ++ up) :
    Shows lib id seat { s with game := g, down := s.down ++ sent, up := up } where
  seated := hr.seated
  sound := by
    intro r hm
    rcases List.mem_append.1 hm with hm | hm
    · exact h.sound r hm
    · exact hr.sound r hm
  player := h.player
  first := by
    intro hi
    obtain ⟨g₀, rest, hd⟩ := h.first hi
    exact ⟨g₀, rest ++ sent, congrArg (· ++ sent) hd⟩
  replica := by
    have hreplica := h.replica
    rw [hup] at hreplica
    rw [views_append]
    exact hr.follows hreplica

theorem Shows.receive {r : Report} {down : List Report} {page : GameData}
    (h : s.Shows lib id seat) (hd : s.down = r :: down)
    (hp : s.page.parseUpdate (r.value id) = some page) :
    Shows lib id seat { s with page := page, down := down, informed := s.informed || r.isFull } := by
  have hsound := h.sound
  rw [hd] at hsound
  have hseat : r.isFull = false → s.page.player = seat.val := by
    intro hf
    apply h.player
    by_contra hi
    obtain ⟨g₀, rest, hfull⟩ := h.first (Bool.eq_false_iff.2 hi)
    cases hd.symm.trans hfull
    cases hf
  obtain ⟨hplayer, hview⟩ := parseUpdate_view (hsound r List.mem_cons_self) hp hseat
  constructor
  · exact h.seated
  · exact fun r' hr' => hsound r' (List.mem_cons_of_mem _ hr')
  · exact fun _ => hplayer
  · intro hi
    obtain ⟨hi, hf⟩ := Bool.or_eq_false_iff.1 hi
    obtain ⟨g₀, rest, hfull⟩ := h.first hi
    cases hd.symm.trans hfull
    cases hf
  · have hreplica := h.replica
    rw [hd] at hreplica
    cases r with
    | times g₀ =>
      have hi : s.informed = true := by
        by_contra hi
        obtain ⟨g₁, rest, hfull⟩ := h.first (Bool.eq_false_iff.2 hi)
        cases hd.symm.trans hfull
      simp only [Play.shown, hi, ↓reduceIte] at hreplica
      simp only [Play.shown, hi, Bool.true_or, ↓reduceIte, hview]
      exact hreplica
    | game g₀ =>
      have hi : s.informed = true := by
        by_contra hi
        obtain ⟨g₁, rest, hfull⟩ := h.first (Bool.eq_false_iff.2 hi)
        cases hd.symm.trans hfull
      simp only [Play.shown, hi, Bool.true_or, ↓reduceIte, hview]
      exact hreplica.step (Replica.Step.receive rfl)
    | full g₀ =>
      simp only [Play.shown, Report.isFull, Bool.or_true, ↓reduceIte, hview]
      exact hreplica.step (Replica.Step.receive rfl)

theorem Shows.click {square : Fin 9} {page : GameData} (h : s.Shows lib id seat)
    (hi : s.informed = true) (he : s.page.enabled = true)
    (hc : s.page.onClick square = some page) :
    Shows lib id seat { s with page := page, up := s.up ++ [square] } := by
  simp only [GameData.onClick] at hc
  split at hc
  · next hlegal =>
    obtain ⟨hempty, hturn⟩ := hlegal
    cases hc
    constructor
    · exact h.seated
    · exact h.sound
    · exact h.player
    · exact h.first
    · have hreplica := h.replica
      simp only [Play.shown, hi, ↓reduceIte] at hreplica ⊢
      have hdone : s.page.done = false := by
        obtain ⟨hd, -⟩ := Bool.and_eq_true_iff.1 he
        simpa only [Bool.not_eq_true'] using hd
      exact hreplica.step (Replica.Step.act (v := s.page.view) square rfl ⟨hturn, hdone⟩ hempty)
  · cases hc

theorem Attends.step {l : PlayLabel} (hparse : ParsesMoves lib) (h : s.Attends lib id)
    (hg : (playedGame lib).Reachable s.game) (hs : (playing lib parse id).step s l s') :
    s'.Attends lib id ∧ (playedGame lib).Reachable s'.game := by
  obtain ⟨hs, hf⟩ := hs
  cases hs with
  | @call up _ game out c taken hconnect hdisconnect hc hup htexts =>
    have hg' : (playedGame lib).Reachable game := hg.step ⟨⟨[], out, hc⟩, hf⟩
    have hw := ticTacToe_wellFormed.reachable hg'.of_restrict
    refine ⟨?_, hg'⟩
    cases h with
    | waiting hwait hd hu hi =>
      rw [hu] at hup
      obtain ⟨rfl, rfl⟩ := List.append_eq_nil_iff.1 hup.symm
      have hb := playedGame_boardPlayed.reachable hg'
      rcases hwait.call hb hw hdisconnect hc with ⟨hwait', hnone⟩ | ⟨seat, hseat, hfull, hsound⟩
      · apply Attends.waiting hwait'
        · simp only [hd, hnone, List.append_nil]
        · rfl
        · exact hi
      · apply Attends.shows seat
        simp only [hd, hfull, List.nil_append]
        constructor
        · exact hseat
        · intro r hr
          rw [List.mem_singleton.1 hr]
          exact hsound
        · intro hi'
          cases hi.symm.trans hi'
        · exact fun _ => ⟨game, [], rfl⟩
        · apply LTS.Reachable.init
          refine ⟨rfl, ?_, rfl⟩
          simp only [Play.shown, hi, Bool.false_eq_true, ↓reduceIte]
    | shows seat h =>
      exact .shows seat (h.call (h.seated.call hparse hw hconnect hdisconnect hf hc htexts) hup)
  | receive hd hread hp =>
    rename_i r down data page
    refine ⟨?_, hg⟩
    have hr := hf r (by rw [hd]; rfl)
    cases hread.symm.trans hr
    cases h with
    | waiting hwait hd' =>
      cases hd'.symm.trans hd
    | shows seat h => exact .shows seat (h.receive hd hp)
  | tick =>
    refine ⟨?_, hg⟩
    cases h with
    | waiting hwait hd hu hi => exact .waiting hwait hd hu hi
    | shows seat h => exact .shows seat ⟨h.seated, h.sound, h.player, h.first, h.replica⟩
  | click square he hc =>
    refine ⟨?_, hg⟩
    cases h with
    | waiting hwait hd hu hi => cases hi.symm.trans hf
    | shows seat h => exact .shows seat (h.click hf he hc)

theorem attends_invariant (parse : String → Option Json) (hparse : ParsesMoves lib) :
    (playing lib parse id).Invariant fun s =>
      s.Attends lib id ∧ (playedGame lib).Reachable s.game where
  init := by
    rintro s ⟨g, hg, hnew, hl, rfl⟩
    have hg' : (playedGame lib).Reachable (g.connect lib [] id).1 :=
      hg.step (l := TicTacToeCall.connect id) ⟨⟨[], _, rfl⟩, trivial⟩
    refine ⟨.waiting ?_ rfl rfl rfl, hg'⟩
    have hseat : (g.playerList ++ [id])[g.playerList.length]? = some id := by
      rw [List.getElem?_append_right (Nat.le_refl _), Nat.sub_self]
      rfl
    rw [connect_eq, if_pos hnew]
    refine ⟨?_, ⟨⟨_, hl⟩, hseat⟩, ?_⟩
    · by_contra hs
      have hw := ticTacToe_wellFormed.reachable hg.of_restrict
      have hseated := hw.seated (by simpa only [Bool.not_eq_false] using hs)
      omega
    · rw [isConnected, Finmap.lookup_insert]
      rfl
  step := by
    rintro s l s' - ⟨h, hg⟩ hs
    exact h.step hparse hg hs

def moveLibrary : JsonLibrary where
  parse text :=
    ((List.finRange 9).find? fun square => GameData.moveText square = text).map moveValue
  dump := Json.render
  overflow _ := 0

theorem moveLibrary_parses : ParsesMoves moveLibrary := by
  intro square
  have hfind : (List.finRange 9).find?
      (fun square' => GameData.moveText square' = GameData.moveText square) = some square := by
    revert square
    decide
  exact congrArg (Option.map moveValue) hfind

/-- Players 1 and 2 have connected and the game has started. -/
def sampleGame : TicTacToeGame :=
  let g := (TicTacToeGame.construct (.object [("matched", .boolean true)])).connect moveLibrary [] 1
  ((g.1.connect moveLibrary [] 2).1.start moveLibrary [] 1).1

def sampleMove : TicTacToeGame :=
  (sampleGame.advance moveLibrary [] 100).1.makeMove 1 1
    (.array [.numberUnsigned 1, .numberUnsigned 1])

/-- A browser that knows two texts for player 1. -/
def sampleParse (text : String) : Option Json :=
  if text = Json.render (sampleGame.getFullState 1) then some (sampleGame.getFullState 1)
  else if text = Json.render (sampleMove.getGameState 1) then some (sampleMove.getGameState 1)
  else none

theorem sample_clicked : ∃ page,
    (playing moveLibrary sampleParse 1).Reachable ⟨sampleGame, page, [], [4], true⟩ := by
  have h0 : (playing moveLibrary sampleParse 1).Reachable
      ⟨((TicTacToeGame.construct (.object [("matched", .boolean true)])).connect moveLibrary []
        1).1, .new, [], [], false⟩ := .init ⟨_, .init ⟨_, rfl⟩, rfl, by decide, rfl⟩
  have h1 := h0.step (l := PlayLabel.call (.connect 2))
    ⟨.call (.connect 2) [] (fun h => absurd (TicTacToeCall.connect.inj h) (by decide))
      (fun h => by cases h) rfl rfl rfl, trivial⟩
  have h2 := h1.step (l := PlayLabel.call (.update [] 0 1))
    ⟨.call (.update [] 0 1) [] (fun h => by cases h) (fun h => by cases h)
      rfl rfl rfl, rfl⟩
  have hparse : sampleParse (Json.render (sampleGame.getFullState 1)) =
      some (sampleGame.getFullState 1) := if_pos rfl
  have h3 := h2.step (l := PlayLabel.receive) ⟨.receive rfl hparse rfl, fun r hr => by
    cases hr
    exact hparse⟩
  have h4 := h3.step (l := PlayLabel.click 4) ⟨.click 4 rfl rfl, rfl⟩
  exact ⟨_, h4⟩

theorem sample_update (page : GameData) :
    (playing moveLibrary sampleParse 1).step ⟨sampleGame, page, [], [4], true⟩
      (.call (.update [(1, GameData.moveText 4)] 100 1))
      ⟨sampleMove, page, [.game sampleMove], [], true⟩ :=
  ⟨.call (.update [(1, GameData.moveText 4)] 100 1) [4] (fun h => by cases h)
    (fun h => by cases h) rfl rfl rfl, rfl⟩

/-- Once all that is on the way has arrived, the page of a player of a game that has started
shows the seat of the player and the state of the game. -/
theorem page_shows_game (hparse : ParsesMoves lib) (h : (playing lib parse id).Reachable s)
    (hs : s.game.started = true) (hd : s.down = []) (hu : s.up = []) :
    ∃ seat : Fin 2, s.game.playerList[seat.val]? = some id ∧
      s.page.view = s.game.view seat := by
  cases ((attends_invariant parse hparse).reachable h).1 with
  | waiting hwait => cases hwait.started.symm.trans hs
  | shows seat h =>
    refine ⟨seat, h.seated.seat, ?_⟩
    have hi : s.informed = true := by
      by_contra hi
      obtain ⟨g₀, rest, hfull⟩ := h.first (Bool.eq_false_iff.2 hi)
      cases hd.symm.trans hfull
    have hsynced := (Replica.synced_invariant ticTacToeReplica).reachable h.replica
    have hviews : views seat s.down = [] := by
      rw [hd]
      rfl
    have hshown := hsynced.shown_of_drained hu hviews
    simp only [Play.shown, hi, ↓reduceIte] at hshown
    exact Option.some.inj hshown

/-- Player 1 moves to the center and the page hears of it. -/
theorem page_shows_game_center : ∃ page,
    (playing moveLibrary sampleParse 1).Reachable ⟨sampleMove, page, [], [], true⟩ ∧
      ∃ seat : Fin 2, sampleMove.playerList[seat.val]? = some 1 ∧
        page.view = sampleMove.view seat := by
  obtain ⟨page, h⟩ := sample_clicked
  have hparse : sampleParse (Json.render (sampleMove.getGameState 1)) =
      some (sampleMove.getGameState 1) := (if_neg (by decide)).trans (if_pos rfl)
  have hmoved := (h.step (sample_update page)).step (l := PlayLabel.receive)
    ⟨.receive rfl hparse (parseUpdate_game page sampleMove), fun r hr => by
      cases hr
      exact hparse⟩
  exact ⟨_, hmoved, page_shows_game moveLibrary_parses hmoved rfl rfl rfl⟩

/-- A click that the page let through makes a move when the server reads it, unless the game is
done by then. -/
theorem click_obeyed (hparse : ParsesMoves lib) (h : (playing lib parse id).Reachable s)
    (hs : (playing lib parse id).step s (.call (.update msgs deltaTime count)) s')
    (hm : msgs = before ++ (id, text) :: after)
    (hf : before.foldlM (takeMessage lib) (s.game.advance lib [] deltaTime) = .value t) :
    LegalMove (Converted lib) lib t.1 (id, text) ∨ t.1.isDone = true := by
  obtain ⟨hs, hundone⟩ := hs
  cases hs with
  | @call up _ game out _ taken _ _ hc hup htexts =>
    subst hm
    simp only [TicTacToeCall.textsOf, List.filter_append, List.map_append] at htexts
    rw [List.filter_cons, if_pos (decide_eq_true rfl), List.map_cons] at htexts
    obtain ⟨first, rest, rfl, hfirst, hrest⟩ := List.map_eq_append_iff.1 htexts.symm
    obtain ⟨square, rest, rfl, rfl, -⟩ := List.map_eq_cons_iff.1 hrest
    cases ((attends_invariant parse hparse).reachable h).1 with
    | waiting hwait hd hu =>
      rw [hu] at hup
      cases (List.append_eq_nil_iff.1 (List.append_eq_nil_iff.1 hup.symm).1).2
    | shows seat h =>
      have hadvance := h.seated.advance hundone [] deltaTime
      have hbefore := hadvance.trans (hadvance.seated.messages hparse hf hfirst.symm)
      have hreplica := h.replica
      rw [hup, List.append_assoc, List.cons_append] at hreplica
      have hsynced := (Replica.synced_invariant ticTacToeReplica).reachable
        (hbefore.follows hreplica)
      have hseated := hbefore.seated
      have hlegal := legalMove_iff square hparse hseated.started hseated.nodup
        hseated.seat
      by_cases hl : LegalMove (Converted lib) lib t.1 (id, GameData.moveText square)
      · exact .inl hl
      · exact .inr (hsynced.final_of_ignore rfl fun hn => hl (hlegal.2 hn))

theorem click_obeyed_center :
    ∃ s s', (playing moveLibrary sampleParse 1).Reachable s ∧
      (playing moveLibrary sampleParse 1).step s
        (.call (.update [(1, GameData.moveText 4)] 100 1)) s' ∧
      LegalMove (Converted moveLibrary) moveLibrary (s.game.advance moveLibrary [] 100).1
        (1, GameData.moveText 4) := by
  obtain ⟨page, h⟩ := sample_clicked
  have hone : ([(1, GameData.moveText 4)] : List TicTacToeMessage) =
      [] ++ (1, GameData.moveText 4) :: [] := rfl
  have hdone : ¬ (sampleGame.advance moveLibrary [] 100).1.isDone = true := by decide
  have hobeyed := click_obeyed moveLibrary_parses h (sample_update page) hone rfl
  exact ⟨_, _, h, sample_update page, hobeyed.resolve_right hdone⟩

end Play

end WebGameServer
