import WebGameServer.GameServer.Instances
import WebGameServer.TicTacToe.Clock
import WebGameServer.TicTacToe.Matchmaker
import WebGameServer.TicTacToe.Replay

namespace WebGameServer
set_option autoImplicit true

/-- A game with the clock readings that its updates take one after the other. -/
structure ClockedGame where
  game : TicTacToeGame
  readings : Nat → Int

section Instance

variable {Hdl : Type} [DecidableEq Hdl]

/-- `tic_tac_toe_game` as the type parameter of the game server. An update that comes to no value
leaves what `undefined` says. -/
def ticTacToeInstance (lib : JsonLibrary) (readings : Nat → Int)
    (undefined : ClockedGame → List TicTacToeMessage → ClockedGame × List TicTacToeMessage) :
    GameInstance (ticTacToeTraits Hdl) ClockedGame where
  construct data := ⟨.construct data, readings⟩
  isValid g := g.game.valid
  connect g out id := (⟨(g.game.connect lib out id).1, g.readings⟩, (g.game.connect lib out id).2)
  disconnect g out id := (⟨(g.game.disconnect out id).1, g.readings⟩, (g.game.disconnect out id).2)
  update g out msgs deltaTime :=
    match g.game.update lib out msgs deltaTime (g.readings 0) with
    | .value r => (⟨r.1, fun n => g.readings (n + 1)⟩, r.2)
    | _ => undefined g out
  isDone g := g.game.isDone
  getState g := g.game.getState

/-- The games may read the clock in any way, each step anew. -/
def PlaysTicTacToe (Hdl : Type) [DecidableEq Hdl] (lib : JsonLibrary)
    (inst : GameInstance (ticTacToeTraits Hdl) ClockedGame) : Prop :=
  ∃ readings undefined, inst = ticTacToeInstance lib readings undefined

/-- No text is handled that parses to a value without what an update reads of it. -/
def HandlesChecked {Worker : Type} (lib : JsonLibrary)
    (_ : GameServer (ticTacToeTraits Hdl) ClockedGame Worker)
    (evs : List (Event (ticTacToeTraits Hdl)))
    (_ : GameServer (ticTacToeTraits Hdl) ClockedGame Worker) : Prop :=
  ∀ id text, .handleMessage id text ∈ evs → ¬ TicTacToeGame.UncheckedText lib (id.player, text)

/-- The game server of the example, without `stop`, in runs in which no text is handled that an
update reads without a check, such as `{}`. -/
def ticTacToeServer {Worker : Type} [DecidableEq Worker] (lib : JsonLibrary)
    (cfg : Config (ticTacToeTraits Hdl)) (timestep : Int) :
    LTS (GameServer (ticTacToeTraits Hdl) ClockedGame Worker)
      (List (Event (ticTacToeTraits Hdl))) :=
  (varyingServer cfg (PlaysTicTacToe Hdl lib) timestep).restrict (HandlesChecked lib)

def TicTacToeCall.gameCall : TicTacToeCall → GameCall (ticTacToeTraits Hdl)
  | .connect id => .connect id
  | .disconnect id => .disconnect id
  | .update msgs deltaTime _ => .update msgs deltaTime

variable {lib : JsonLibrary} {g g' : ClockedGame} {c : GameCall (ticTacToeTraits Hdl)}
  {ls : List (GameCall (ticTacToeTraits Hdl))}

theorem playsTicTacToe_endsInUpdate : EndsInUpdate (PlaysTicTacToe Hdl lib)
    fun g => g.game.isDone where
  isDone inst hp g hd := by
    obtain ⟨readings, undefined, rfl⟩ := hp
    exact hd
  construct inst hp data hv := by
    obtain ⟨readings, undefined, rfl⟩ := hp
    rfl
  connect inst hp g out id := by
    obtain ⟨readings, undefined, rfl⟩ := hp
    simp only [ticTacToeInstance, TicTacToeGame.connect_eq, TicTacToeGame.isDone]
  disconnect inst hp g out id := by
    obtain ⟨readings, undefined, rfl⟩ := hp
    rfl

theorem ticTacToe_step (hs : (instances (PlaysTicTacToe Hdl lib)).step g c g')
    (hu : Unended (fun g => g.game.isDone) g c g') (hw : g.game.WellFormed)
    (hc : ∀ msg ∈ c.messages, ¬ TicTacToeGame.UncheckedText lib msg) :
    ∃ c' : TicTacToeCall, c'.gameCall = c ∧ (playedGame lib).step g.game c' g'.game := by
  obtain ⟨inst, ⟨readings, undefined, rfl⟩, hs⟩ := hs
  cases hs with
  | connect out id => exact ⟨.connect id, rfl, ⟨out, _, rfl⟩, trivial⟩
  | disconnect out id => exact ⟨.disconnect id, rfl, ⟨out, _, rfl⟩, trivial⟩
  | update out msgs t =>
    have hv : (g.game.update lib out msgs t (g.readings 0)).IsValue :=
      TicTacToeGame.update_isValue hw hc
    obtain ⟨r, hr⟩ := hv
    refine ⟨.update msgs t (g.readings 0), rfl, ⟨out, r.2, ?_⟩, hu msgs t rfl⟩
    simp only [TicTacToeGame.call, ticTacToeInstance, hr]

/-- The calls of the game server on a game without an unchecked text are a run of the game. -/
theorem ticTacToe_run
    (hr : ((instances (PlaysTicTacToe Hdl lib)).restrict
      (Unended fun g => g.game.isDone)).Run g ls g') (hw : g.game.WellFormed)
    (hc : ∀ c ∈ ls, ∀ msg ∈ c.messages, ¬ TicTacToeGame.UncheckedText lib msg) :
    ∃ ls' : List TicTacToeCall, ls'.map TicTacToeCall.gameCall = ls ∧
      (playedGame lib).Run g.game ls' g'.game := by
  induction hr with
  | nil => exact ⟨[], rfl, .nil⟩
  | @cons g c g₁ ls g' hs hr ih =>
    obtain ⟨hfirst, hrest⟩ := List.forall_mem_cons.1 hc
    obtain ⟨c', hc', hstep⟩ := ticTacToe_step hs.1 hs.2 hw hfirst
    have hw₁ : g₁.game.WellFormed := by
      obtain ⟨⟨out, out', hcall⟩, -⟩ := hstep
      exact (TicTacToeGame.call_cases hcall).wellFormed hw
    obtain ⟨ls', hls, hrun⟩ := ih hw₁ hrest
    refine ⟨c' :: ls', ?_, .cons hstep hrun⟩
    rw [List.map_cons, hc', hls]

end Instance

section Clocks

variable {T : Traits}

def runningTime : List (GameCall T) → Int
  | [] => 0
  | .update _ t :: calls => t + runningTime calls
  | _ :: calls => runningTime calls

/-- The time that the updates take after the one that starts the game, which is the first one
with two players. A player whose disconnect came first is known and takes no seat. -/
def clockTime (known : Finset T.PlayerId) (players : Nat) : List (GameCall T) → Int
  | [] => 0
  | .connect id :: calls =>
    clockTime (insert id known) (if id ∈ known then players else players + 1) calls
  | .disconnect id :: calls => clockTime (insert id known) players calls
  | .update _ _ :: calls =>
    if 1 < players then runningTime calls else clockTime known players calls

end Clocks

namespace TicTacToeGame

variable {Hdl : Type} [DecidableEq Hdl] {lib : JsonLibrary} {g g' : TicTacToeGame}
  {out : List TicTacToeMessage} {deltaTime : Int} {ls : List TicTacToeCall}

def totalTime (g : TicTacToeGame) : Int := g.times 0 + g.times 1

def Ticking (g : TicTacToeGame) : Prop := ∀ i, 0 < g.times i

theorem checkTime_running {i : Fin 2} (h : (g.checkTime i).gameOver = false) :
    0 < g.times i ∧ g.checkTime i = g := by
  simp only [checkTime] at h ⊢
  split
  · next ht =>
    rw [if_pos ht] at h
    cases h
  · next ht => exact ⟨not_le.1 ht, rfl⟩

theorem runClock_running (h : (g.runClock deltaTime).gameOver = false) :
    (g.runClock deltaTime).totalTime = g.totalTime - deltaTime ∧
      (g.runClock deltaTime).Ticking := by
  simp only [runClock, List.foldl_cons, List.foldl_nil] at h ⊢
  generalize hg : { g with times := Function.update g.times g.turn (g.times g.turn - deltaTime) } =
    g₀ at h ⊢
  obtain ⟨h1, he⟩ := checkTime_running h
  rw [he] at h ⊢
  obtain ⟨h0, he⟩ := checkTime_running h
  rw [he] at h1 ⊢
  constructor
  · rw [← hg]
    obtain ht | ht := player_cases g.turn
    · have hne : (1 : Fin 2) ≠ 0 := by decide
      simp only [totalTime, ht, Function.update_self, Function.update_of_ne hne]
      omega
    · have hne : (0 : Fin 2) ≠ 1 := by decide
      simp only [totalTime, ht, Function.update_self, Function.update_of_ne hne]
      omega
  · intro i
    obtain rfl | rfl := player_cases i
    · exact h0
    · exact h1

theorem moves_players (hm : Relation.ReflTransGen (MoveStep lib) g g') :
    g'.started = g.started ∧ g'.playerList = g.playerList ∧ g'.dataMap = g.dataMap := by
  induction hm with
  | refl => exact ⟨rfl, rfl, rfl⟩
  | tail _ hm ih =>
    cases hm with
    | make => exact ih

theorem over_stays (hr : (playedGame lib).Run g ls g') (ho : g.gameOver = true) :
    g'.gameOver = true := by
  induction hr with
  | nil => exact ho
  | cons hs hr ih =>
    obtain ⟨⟨out, out', hcall⟩, hu⟩ := hs
    apply ih
    cases call_cases hcall with
    | connect | disconnect => exact ho
    | update hupdate =>
      have hf := (isDone_eq_false hu).2
      cases ho.symm.trans hf

theorem running_of_run (hr : (playedGame lib).Run g ls g') (ho : g'.gameOver = false) :
    g.gameOver = false := by
  cases h : g.gameOver with
  | false => rfl
  | true => cases (over_stays hr h).symm.trans ho

variable (Hdl) in
/-- The clocks of a game that has started lose the time of the updates together. -/
theorem started_totalTime (hr : (playedGame lib).Run g ls g') (hs : g.started = true)
    (ht : g.Ticking) (ho : g'.gameOver = false) :
    g'.totalTime = g.totalTime - runningTime
        (ls.map (TicTacToeCall.gameCall : _ → GameCall (ticTacToeTraits Hdl))) ∧
      g'.Ticking := by
  induction hr with
  | nil => exact ⟨(Int.sub_zero _).symm, ht⟩
  | @cons g c g₁ ls g' hstep hr ih =>
    have ho₁ := running_of_run hr ho
    obtain ⟨⟨out, out', hcall⟩, hu⟩ := hstep
    cases call_cases hcall with
    | connect id | disconnect id => exact ih hs ht ho
    | @update out msgs t count _ hupdate =>
      have hover := (isDone_eq_false hu).2
      cases hupdate with
      | idle hidle | start hidle =>
        rcases hidle with h | h
        · cases hs.symm.trans h
        · cases hover.symm.trans h
      | run _ _ hm =>
        obtain ⟨htimes, -, hgo⟩ := moves_clock hm
        have hadvance := g.advance_eq lib out t
        rw [hadvance] at htimes hgo
        obtain ⟨htotal, hticking⟩ := runClock_running (hgo.symm.trans ho₁)
        have hs₁ : g₁.started = true := by
          rw [(moves_players hm).1, hadvance, runClock_eq]
          exact hs
        have hsame : g₁.totalTime = g.totalTime - t := by
          rw [← htotal, totalTime, htimes, totalTime]
        have ht₁ : g₁.Ticking := by
          intro i
          rw [htimes]
          exact hticking i
        obtain ⟨hsum, hlast⟩ := ih hs₁ ht₁ ho
        refine ⟨?_, hlast⟩
        simp only [List.map_cons, TicTacToeCall.gameCall, runningTime]
        omega

structure Fresh (g : TicTacToeGame) : Prop where
  valid : g.valid = true
  unstarted : g.started = false
  times : g.times = fun _ => 100000

theorem fresh_totalTime (hr : (playedGame lib).Run g ls g') (hf : g.Fresh)
    (ho : g'.gameOver = false) :
    g'.totalTime = 200000 - clockTime g.dataMap.keys g.playerList.length
      (ls.map (TicTacToeCall.gameCall : _ → GameCall (ticTacToeTraits Hdl))) ∧ g'.Ticking := by
  induction hr with
  | nil =>
    simp only [totalTime, Ticking, hf.times, List.map_nil, clockTime]
    exact ⟨by decide, fun _ => by decide⟩
  | @cons g c g₁ ls g' hstep hr ih =>
    obtain ⟨⟨out, out', hcall⟩, hu⟩ := hstep
    cases c with
    | connect id =>
      cases call_cases hcall
      have hrest := ih ⟨hf.valid, hf.unstarted, hf.times⟩ ho
      simp only [List.map_cons, TicTacToeCall.gameCall, clockTime]
      rw [Map.keys_insert] at hrest
      by_cases hid : id ∈ g.dataMap.keys
      · have hknown : g.dataMap.lookup id ≠ none := fun h => (Map.notMem_keys_iff _).2 h hid
        rw [if_pos hid]
        rw [if_neg hknown] at hrest
        exact hrest
      · rw [if_neg hid]
        rw [if_pos ((Map.notMem_keys_iff _).1 hid), List.length_append] at hrest
        exact hrest
    | disconnect id =>
      cases call_cases hcall
      have hrest := ih ⟨hf.valid, hf.unstarted, hf.times⟩ ho
      rw [Map.keys_insert] at hrest
      exact hrest
    | update msgs t count =>
      simp only [call, update_idle (.inl hf.unstarted), hf.valid, Bool.true_and,
        decide_eq_true_eq] at hcall
      simp only [List.map_cons, TicTacToeCall.gameCall, clockTime]
      by_cases hl : 1 < g.playerList.length
      · rw [if_pos hl] at hcall ⊢
        have he := congrArg Prod.fst (Outcome.value.inj hcall)
        subst he
        have hfull : (g.start lib out count).1.times = fun _ => 100000 := hf.times
        have hticking : (g.start lib out count).1.Ticking := by
          intro i
          rw [hfull]
          exact (by decide : (0 : Int) < 100000)
        have hlast := started_totalTime Hdl hr rfl hticking ho
        rw [totalTime, totalTime, hfull] at hlast
        exact hlast
      · rw [if_neg hl] at hcall ⊢
        have he := congrArg Prod.fst (Outcome.value.inj hcall)
        subst he
        exact ih hf ho

section Authors

def SentMove (lib : JsonLibrary) (calls : List TicTacToeCall) (p : TicTacToePlayer)
    (move : Json) : Prop :=
  ∃ msgs t n text data, .update msgs t n ∈ calls ∧ (p, text) ∈ msgs ∧
    lib.parse text = some data ∧ data.key "move" = .value move

/-- The players are those who were connected, and the two players with the first seats sent the
moves in turn. -/
structure Authored (lib : JsonLibrary) (calls : List TicTacToeCall) (g : TicTacToeGame) :
    Prop where
  players : ∀ p ∈ g.playerList, .connect p ∈ calls
  moves : ∀ i move, g.moveList[i]? = some move →
    ∃ p, g.playerList[i % 2]? = some p ∧ SentMove lib calls p move
  turn : g.turn.val = g.moveList.length % 2
  unstarted : g.started = false → g.moveList = []

variable {calls : List TicTacToeCall} {c : TicTacToeCall} {msgs done : List TicTacToeMessage}
  {id : TicTacToePlayer}

theorem SentMove.mono {calls' : List TicTacToeCall} (h : SentMove lib calls p move)
    (hs : calls ⊆ calls') : SentMove lib calls' p move := by
  obtain ⟨msgs, t, n, text, data, hc, hm, hp, hk⟩ := h
  exact ⟨msgs, t, n, text, data, hs hc, hm, hp, hk⟩

theorem Authored.mono {calls' : List TicTacToeCall} (h : Authored lib calls g)
    (hs : calls ⊆ calls') : Authored lib calls' g where
  players p hp := hs (h.players p hp)
  moves i move hm := by
    obtain ⟨p, hp, hsent⟩ := h.moves i move hm
    exact ⟨p, hp, hsent.mono hs⟩
  turn := h.turn
  unstarted := h.unstarted

theorem Authored.of_eq (h : Authored lib calls g) (hp : g'.playerList = g.playerList)
    (hm : g'.moveList = g.moveList) (ht : g'.turn = g.turn) (hs : g'.started = g.started) :
    Authored lib calls g' where
  players := by
    rw [hp]
    exact h.players
  moves := by
    rw [hm, hp]
    exact h.moves
  turn := by
    rw [ht, hm]
    exact h.turn
  unstarted := by
    rw [hs, hm]
    exact h.unstarted

theorem Authored.connect (h : Authored lib calls g) (hc : .connect id ∈ calls)
    (hp : g'.playerList = g.playerList ∨ g'.playerList = g.playerList ++ [id])
    (hm : g'.moveList = g.moveList) (ht : g'.turn = g.turn) (hs : g'.started = g.started) :
    Authored lib calls g' := by
  rcases hp with hp | hp
  · exact h.of_eq hp hm ht hs
  · constructor
    · rw [hp]
      intro p hm
      rcases List.mem_append.1 hm with hm | hm
      · exact h.players p hm
      · exact List.mem_singleton.1 hm ▸ hc
    · rw [hm, hp]
      intro i move hmove
      obtain ⟨p, hseat, hsent⟩ := h.moves i move hmove
      obtain ⟨hlt, -⟩ := List.getElem?_eq_some_iff.1 hseat
      exact ⟨p, (List.getElem?_append_left hlt).trans hseat, hsent⟩
    · rw [ht, hm]
      exact h.turn
    · rw [hs, hm]
      exact h.unstarted

theorem Authored.takeMessage {s s' : TicTacToeGame × List TicTacToeMessage}
    (h : Authored lib calls s.1) (hc : .update msgs t n ∈ calls) (hm : msg ∈ msgs)
    (ht : TicTacToeGame.takeMessage lib s msg = .value s') : Authored lib calls s'.1 := by
  rcases takeMessage_cases ht with ⟨⟨data, x, y, hp, hr, hs, hd, hturn, he⟩, -⟩ | ⟨-, rfl⟩
  · obtain ⟨g, out⟩ := s
    obtain ⟨move, hkey, hmove⟩ := takeMessage_legal out hp hr hs hd hturn he
    cases ht.symm.trans hmove
    constructor
    · exact h.players
    · intro i move' hi
      simp only [makeMove, List.getElem?_append] at hi
      split at hi
      · exact h.moves i move' hi
      · have hlast : i = g.moveList.length := by
          obtain ⟨hlt, -⟩ := List.getElem?_eq_some_iff.1 hi
          simp only [List.length_singleton] at hlt
          omega
        rw [hlast, Nat.sub_self] at hi
        cases hi
        rw [hlast, ← h.turn]
        exact ⟨msg.1, hturn, msgs, t, n, msg.2, data, hc, hm, hp, hkey⟩
    · have hold := h.turn
      simp only [makeMove, List.length_append, List.length_singleton, Fin.val_add] at hold ⊢
      rw [hold]
      omega
    · intro hf
      cases hs.symm.trans hf
  · exact h

theorem Authored.messages {s s' : TicTacToeGame × List TicTacToeMessage}
    (h : Authored lib calls s.1) (hc : .update msgs t n ∈ calls) (hd : done ⊆ msgs)
    (ht : done.foldlM (TicTacToeGame.takeMessage lib) s = .value s') :
    Authored lib calls s'.1 := by
  induction done generalizing s with
  | nil =>
    cases ht
    exact h
  | cons msg done ih =>
    rw [List.foldlM_cons] at ht
    obtain ⟨s₁, hfirst, hrest⟩ := Outcome.bind_eq_value.1 ht
    obtain ⟨hmsg, hdone⟩ := List.cons_subset.1 hd
    exact ih (h.takeMessage hc hmsg hfirst) hdone hrest

theorem Authored.call (h : Authored lib calls g) (hc : c ∈ calls)
    (hcall : g.call lib out c = .value (g', out')) (hu : g.Undone c) :
    Authored lib calls g' := by
  cases c with
  | connect id =>
    cases call_cases hcall
    by_cases hid : g.dataMap.lookup id = none
    · exact h.connect hc (.inr (if_pos hid)) rfl rfl rfl
    · exact h.connect hc (.inl (if_neg hid)) rfl rfl rfl
  | disconnect id =>
    cases call_cases hcall
    exact h.of_eq rfl rfl rfl rfl
  | update msgs t n =>
    have hover := (isDone_eq_false hu).2
    by_cases hs : g.started = true
    · simp only [TicTacToeGame.call, update_running hs hover] at hcall
      apply Authored.messages ?_ hc (List.Subset.refl msgs) hcall
      rw [advance_eq, runClock_eq]
      exact h.of_eq rfl rfl rfl rfl
    · have hs : g.started = false := Bool.eq_false_iff.2 hs
      simp only [TicTacToeGame.call, update_idle (.inl hs)] at hcall
      have hnone := h.unstarted hs
      split at hcall
      · have he := congrArg Prod.fst (Outcome.value.inj hcall)
        subst he
        have hperm := start_perm lib g out n
        constructor
        · exact fun p hp => h.players p (hperm.mem_iff.1 hp)
        · intro i move hi
          have hi' : g.moveList[i]? = some move := hi
          rw [hnone] at hi'
          cases hi'
        · exact h.turn
        · intro hf
          cases hf
      · have he := congrArg Prod.fst (Outcome.value.inj hcall)
        subst he
        exact h

theorem Authored.run (h : Authored lib calls g) (hr : (playedGame lib).Run g ls g')
    (hs : ls ⊆ calls) : Authored lib calls g' := by
  induction hr with
  | nil => exact h
  | cons hstep hr ih =>
    obtain ⟨hc, hs⟩ := List.cons_subset.1 hs
    obtain ⟨⟨out, out', hcall⟩, hu⟩ := hstep
    exact ih (h.call hc hcall hu) hs

theorem Authored.construct (msg : Json) : Authored lib calls (TicTacToeGame.construct msg) where
  players := List.forall_mem_nil _
  moves i move h := by
    cases h
  turn := rfl
  unstarted _ := rfl

end Authors

end TicTacToeGame

section Server

variable {Hdl Worker : Type} [DecidableEq Hdl] [DecidableEq Worker] {lib : JsonLibrary}
  {cfg : Config (ticTacToeTraits Hdl)} {timestep : Int}
  {gs : GameServer (ticTacToeTraits Hdl) ClockedGame Worker} {sid : UInt64}
  {g : Game (ticTacToeTraits Hdl) ClockedGame}

theorem handled_checked (h : (ticTacToeServer lib cfg timestep).Reachable gs) :
    ∀ id text, .handleMessage id text ∈ gs.base.log →
      ¬ TicTacToeGame.UncheckedText lib (id.player, text) := by
  induction h with
  | init hinit =>
    obtain ⟨t, rfl⟩ := hinit
    intro id text hm
    cases hm
  | step hr hs ih =>
    obtain ⟨⟨hn, inst, hp, hstep⟩, hchecked⟩ := hs
    rw [hstep.log hn]
    intro id text hm
    rcases List.mem_append.1 hm with hm | hm
    · exact ih id text hm
    · exact hchecked id text hm

theorem ticTacToeServer_hosted (h : (ticTacToeServer lib cfg timestep).Reachable gs)
    (hg : gs.games.lookup sid = some g) :
    Hosted (PlaysTicTacToe Hdl lib) (fun g => g.game.isDone) gs.base.log sid g :=
  ((hosting_invariant playsTicTacToe_endsInUpdate).reachable h.of_restrict).hosted sid g hg

/-- A game that was played in the session is the game after the calls that the game server made
on it. -/
theorem hosted_run (h : (ticTacToeServer lib cfg timestep).Reachable gs)
    (hosted : Hosted (PlaysTicTacToe Hdl lib) (fun g => g.game.isDone) gs.base.log sid g) :
    ∃ pid data ls, .handleOpen ⟨pid, sid⟩ data ∈ gs.base.log ∧
      (TicTacToeGame.construct data).valid = true ∧
      ls.map TicTacToeCall.gameCall = g.calls ∧
      (playedGame lib).Run (.construct data) ls g.game.game := by
  obtain ⟨inst, pid, data, rest, ⟨readings, undefined, rfl⟩, hd, hv, hc, hr⟩ := hosted.played
  have hchecked : ∀ c ∈ g.calls, ∀ msg ∈ c.messages, ¬ TicTacToeGame.UncheckedText lib msg := by
    intro c hc msg hm
    cases c with
    | connect | disconnect => cases hm
    | update msgs t => exact handled_checked h _ _ (hosted.caused _ hc msg hm)
  obtain ⟨ls, hls, hrun⟩ := ticTacToe_run hr (.construct data) hchecked
  exact ⟨pid, data, ls, hd, hv, hls, hrun⟩

theorem hosted_authored (h : (ticTacToeServer lib cfg timestep).Reachable gs)
    (hosted : Hosted (PlaysTicTacToe Hdl lib) (fun g => g.game.isDone) gs.base.log sid g) :
    (∀ p ∈ g.game.game.playerList, ∃ data, .handleOpen ⟨p, sid⟩ data ∈ gs.base.log) ∧
    ∀ i move, g.game.game.moveList[i]? = some move →
      ∃ p text data, g.game.game.playerList[i % 2]? = some p ∧
        .handleMessage ⟨p, sid⟩ text ∈ gs.base.log ∧
        lib.parse text = some data ∧ data.key "move" = .value move := by
  obtain ⟨pid, data, ls, -, -, hls, hr⟩ := hosted_run h hosted
  have hauthored := (TicTacToeGame.Authored.construct data).run hr (List.Subset.refl ls)
  have hcall {c : TicTacToeCall} (hc : c ∈ ls) : Caused gs.base.log sid c.gameCall := by
    apply hosted.caused
    rw [← hls]
    exact List.mem_map_of_mem hc
  constructor
  · exact fun p hp => hcall (hauthored.players p hp)
  · intro i move hm
    obtain ⟨p, hp, msgs, t, n, text, data, hc, hmsg, hparse, hkey⟩ := hauthored.moves i move hm
    exact ⟨p, text, data, hp, hcall hc (p, text) hmsg, hparse, hkey⟩

/-- The entry of `m_games` is the game after the calls that the game server made on it. -/
theorem ticTacToeServer_run (h : (ticTacToeServer lib cfg timestep).Reachable gs)
    (hg : gs.games.lookup sid = some g) :
    ∃ pid data ls, .handleOpen ⟨pid, sid⟩ data ∈ gs.base.log ∧
      (TicTacToeGame.construct data).valid = true ∧
      ls.map TicTacToeCall.gameCall = g.calls ∧
      (playedGame lib).Run (.construct data) ls g.game.game :=
  hosted_run h (ticTacToeServer_hosted h hg)

theorem construct_valid {data : Json} :
    (TicTacToeGame.construct data).valid = true ↔
      data.atKey "matched" >>= Json.getBool = .value true := by
  simp only [TicTacToeGame.construct]
  cases h : data.atKey "matched" >>= Json.getBool with
  | value b => simp only [Outcome.value.injEq]
  | thrown e | undefined => simp only [Bool.false_eq_true, reduceCtorEq]

theorem playedGame_of_run {data : Json} {ls : List TicTacToeCall} {g : TicTacToeGame}
    (hr : (playedGame lib).Run (.construct data) ls g) : (playedGame lib).Reachable g := by
  have hinit : (playedGame lib).init (.construct data) := ⟨data, rfl⟩
  exact (LTS.Reachable.init hinit).run hr

end Server

/-- The claim `data` of a token for a result: the players and their scores. -/
def resultClaims (players : List UInt64) (x y : ℚ) : Json :=
  .object [("players", .array (players.map .numberUnsigned)),
    ("scores", .array [.numberFloat x, .numberFloat y])]

/-- `sign_game` of `game_server.cpp`, which puts the token that `sign` makes of the id and of the
claim `data` into the document. -/
def ticTacToeSignGame {Hdl : Type} [DecidableEq Hdl] (lib : JsonLibrary)
    (sign : CombinedId (ticTacToeTraits Hdl) → Json → String)
    (id : CombinedId (ticTacToeTraits Hdl)) (data : Json) : Outcome JsonException String := do
  let players ← data.key "players"
  let scores ← data.key "scores"
  let token := sign id (.object [("players", players), ("scores", scores)])
  let temp ← data.set "token" (.string token)
  return lib.dump temp

/-- The claims of a token for the state of a game are its players and scores. -/
theorem ticTacToeSignGame_getState {Hdl : Type} [DecidableEq Hdl] (lib : JsonLibrary)
    (sign : CombinedId (ticTacToeTraits Hdl) → Json → String)
    (cid : CombinedId (ticTacToeTraits Hdl)) (g : TicTacToeGame) :
    ∃ temp, g.getState.set "token" (.string (sign cid (resultClaims g.playerList
        (1 / 2 + 1 / 2 * g.totalState) (1 / 2 - 1 / 2 * g.totalState)))) = .value temp ∧
      ticTacToeSignGame lib sign cid g.getState = .value (lib.dump temp) := by
  obtain ⟨temp, htemp⟩ : ∃ temp, g.getState.set "token" (.string (sign cid (resultClaims
      g.playerList (1 / 2 + 1 / 2 * g.totalState) (1 / 2 - 1 / 2 * g.totalState)))) =
        .value temp := ⟨_, rfl⟩
  exact ⟨temp, htemp, congrArg (· >>= fun temp => Outcome.value (lib.dump temp)) htemp⟩

/-- A token that says that the player 1 has won against the player 2 in session 7, and an empty
one for the rest. -/
def wonToken (cid : CombinedId (ticTacToeTraits Nat)) (claims : Json) : String :=
  match claims with
  | .object [("players", .array [.numberUnsigned p, .numberUnsigned q]),
      ("scores", .array [.numberFloat x, .numberFloat y])] =>
    if cid = ⟨1, 7⟩ ∧ p = 1 ∧ q = 2 ∧ x = 1 ∧ y = 0 then "won" else ""
  | _ => ""

def adaBobConfig : Config (ticTacToeTraits Nat) where
  verify text :=
    if text = "ada" then some (⟨1, 7⟩, .object [("matched", .boolean true)])
    else if text = "bob" then some (⟨2, 7⟩, .object [("matched", .boolean true)])
    else none
  getResultStr cid data :=
    match ticTacToeSignGame sampleLibrary wonToken cid data with
    | .value str => str
    | _ => ""
  sessionReleaseTime := 60000

theorem wonToken_cases (cid : CombinedId (ticTacToeTraits Nat)) (claims : Json) :
    wonToken cid claims = "won" ∨ wonToken cid claims = "" := by
  unfold wonToken
  split
  · split
    · exact .inl rfl
    · exact .inr rfl
  · exact .inr rfl

theorem wonToken_in {data temp : Json} {cid : CombinedId (ticTacToeTraits Nat)} {claims : Json}
    (h : data.set "token" (.string (wonToken cid claims)) = .value temp) :
    sampleTokenIn (sampleLibrary.dump temp) = some (wonToken cid claims) := by
  apply sampleTokenIn_set h
  rcases wonToken_cases cid claims with he | he <;> rw [he] <;> decide

theorem adaBobConfig_token {cid : CombinedId (ticTacToeTraits Nat)} {g : TicTacToeGame}
    (h : wonToken cid (resultClaims g.playerList (1 / 2 + 1 / 2 * g.totalState)
      (1 / 2 - 1 / 2 * g.totalState)) = "won") :
    sampleTokenIn (adaBobConfig.getResultStr cid g.getState) = some "won" := by
  obtain ⟨temp, htemp, hstr⟩ := ticTacToeSignGame_getState sampleLibrary wonToken cid g
  have hin := wonToken_in htemp
  rw [h] at hin
  simp only [adaBobConfig, hstr]
  exact hin

def oddInstance : GameInstance (ticTacToeTraits Nat) ClockedGame :=
  ticTacToeInstance sampleLibrary (fun _ => 1) fun g out => (g, out)

theorem odd_reachable {cfg : Config (ticTacToeTraits Nat)}
    {gs gs' : GameServer (ticTacToeTraits Nat) ClockedGame Unit}
    (h : (ticTacToeServer sampleLibrary cfg 0).Reachable gs) (hn : .stopping ∉ evs)
    (hm : ∀ id text, .handleMessage id text ∉ evs)
    (hs : GameStep cfg oddInstance 0 gs evs gs') :
    (ticTacToeServer sampleLibrary cfg 0).Reachable gs' :=
  h.step ⟨⟨hn, oddInstance, ⟨_, _, rfl⟩, hs⟩, fun id text he => (hm id text he).elim⟩

theorem odd_loop {cfg : Config (ticTacToeTraits Nat)}
    {gs gs' : GameServer (ticTacToeTraits Nat) ClockedGame Unit}
    (h : (ticTacToeServer sampleLibrary cfg 0).Reachable gs)
    (hidle : gs.base.caller () = .idle) (hs : LoopStep cfg oddInstance 0 gs [] gs') :
    (ticTacToeServer sampleLibrary cfg 0).Reachable gs' :=
  odd_reachable h List.not_mem_nil (fun _ _ => List.not_mem_nil) (.loop hidle hs)

/-- Both log in and the first update starts the game. Ada's clock runs out in the second one. -/
theorem odd_started_and_won :
    (∃ (gs : GameServer (ticTacToeTraits Nat) ClockedGame Unit)
      (g : Game (ticTacToeTraits Nat) ClockedGame),
      (ticTacToeServer sampleLibrary adaBobConfig 0).Reachable gs ∧
      gs.games.lookup 7 = some g ∧ g.game.game.started = true ∧
      g.game.game.playerList = [1, 2] ∧
      g.calls = [.connect 1, .connect 2, .update [] 0]) ∧
    ∃ gs : GameServer (ticTacToeTraits Nat) ClockedGame Unit,
      (ticTacToeServer sampleLibrary adaBobConfig 0).Reachable gs ∧
      ∃ str, .result ⟨1, 7⟩ str ∈ gs.base.log ∧ sampleTokenIn str = some "won" := by
  have h0 : (ticTacToeServer sampleLibrary adaBobConfig 0).Reachable
      (GameServer.start 0 : GameServer (ticTacToeTraits Nat) ClockedGame Unit) := .init ⟨0, rfl⟩
  have h1 := odd_reachable h0 (by simp) (by simp) (.run (.run rfl))
  have h2 := odd_reachable h1 (by simp) (by simp) (.transport (.onMessage (5 : Nat) "ada"))
  have h3 := odd_reachable h2 (by simp) (by simp) (.transport (.onMessage (6 : Nat) "bob"))
  have h4 := odd_reachable h3 (by simp) (by simp) (.worker () (.enter rfl) nofun)
  have h5 := odd_reachable h4 (by simp) (by simp) (.worker () (.pop rfl) nofun)
  have h6 := odd_reachable h5 (by simp) (by simp) (.worker () (.messageUnbound rfl rfl) nofun)
  have h7 := odd_reachable h6 (by simp) (by simp)
    (.worker () (.openSession ⟨0, 0⟩ rfl rfl rfl) nofun)
  have h8 := odd_reachable h7 (by simp) (by simp) (.worker () .setupConnectionId nofun)
  have h9 := odd_reachable h8 (by simp) (by simp) (.worker () .handleOpen nofun)
  have h10 := odd_reachable h9 (by simp) (by simp) (.worker () (.enter rfl) nofun)
  have h11 := odd_reachable h10 (by simp) (by simp) (.worker () (.pop rfl) nofun)
  have h12 := odd_reachable h11 (by simp) (by simp) (.worker () (.messageUnbound rfl rfl) nofun)
  have h13 := odd_reachable h12 (by simp) (by simp)
    (.worker () (.openSession ⟨0, 0⟩ rfl rfl rfl) nofun)
  have h14 := odd_reachable h13 (by simp) (by simp) (.worker () .setupConnectionId nofun)
  have h15 := odd_reachable h14 (by simp) (by simp) (.worker () .handleOpen nofun)
  have h16 := odd_loop h15 rfl (.enter 0 rfl rfl)
  have h17 := odd_loop h16 rfl (.noGames rfl rfl)
  have h18 := odd_loop h17 rfl (.pass rfl nofun)
  have h19 := odd_loop h18 rfl (.relock rfl)
  have h20 := odd_loop h19 rfl (.swapUpdates rfl (by decide))
  have h21 := odd_loop h20 rfl (.createGame rfl rfl rfl)
  have h22 := odd_loop h21 rfl (.connectPlayer rfl rfl)
  have h23 := odd_loop h22 rfl (.clearUpdates rfl)
  have h24 := odd_loop h23 rfl (.clearFinished rfl rfl)
  have h25 := odd_loop h24 rfl (.updateGames [(7 : UInt64)] rfl (by decide) rfl)
  refine ⟨⟨_, _, h25, rfl, rfl, rfl, rfl⟩, ?_⟩
  have h26 := odd_loop h25 rfl (.sendSession (7 : UInt64) rfl (by decide))
  have h27 := odd_reachable h26 (by simp) (by simp)
    (.loop rfl (.sendMessage rfl (.sendMessage _ _ rfl)))
  have h28 := odd_reachable h27 (by simp) (by simp) (.call nofun .pushMessage)
  have h29 := odd_reachable h28 (by simp) (by simp)
    (.loop rfl (.sendMessage rfl (.sendMessage _ _ rfl)))
  have h30 := odd_reachable h29 (by simp) (by simp) (.call nofun .pushMessage)
  have h31 := odd_loop h30 rfl (.clearMessages rfl)
  have h32 := odd_loop h31 rfl (.sendDone rfl)
  have h33 := odd_loop h32 rfl (.skipGame (7 : UInt64) rfl (by decide) rfl rfl)
  have h34 := odd_loop h33 rfl (.finish rfl)
  have h35 := odd_loop h34 rfl (.enter 100000 rfl rfl)
  have h36 := odd_loop h35 rfl (.lock rfl fun he =>
    Option.some_ne_none _ (congrArg (Finmap.lookup (7 : UInt64)) he))
  have h37 := odd_loop h36 rfl (.swapUpdates rfl (by decide))
  have h38 := odd_loop h37 rfl (.clearUpdates rfl)
  have h39 := odd_loop h38 rfl (.clearFinished rfl rfl)
  have h40 := odd_loop h39 rfl (.updateGames [(7 : UInt64)] rfl (by decide) rfl)
  have h41 := odd_loop h40 rfl (.sendSession (7 : UInt64) rfl (by decide))
  have h42 := odd_reachable h41 (by simp) (by simp)
    (.loop rfl (.sendMessage rfl (.sendMessage _ _ rfl)))
  have h43 := odd_reachable h42 (by simp) (by simp) (.call nofun .pushMessage)
  have h44 := odd_reachable h43 (by simp) (by simp)
    (.loop rfl (.sendMessage rfl (.sendMessage _ _ rfl)))
  have h45 := odd_reachable h44 (by simp) (by simp) (.call nofun .pushMessage)
  have h46 := odd_reachable h45 (by simp) (by simp)
    (.loop rfl (.sendMessage rfl (.sendMessage _ _ rfl)))
  have h47 := odd_reachable h46 (by simp) (by simp) (.call nofun .pushMessage)
  have h48 := odd_reachable h47 (by simp) (by simp)
    (.loop rfl (.sendMessage rfl (.sendMessage _ _ rfl)))
  have h49 := odd_reachable h48 (by simp) (by simp) (.call nofun .pushMessage)
  have h50 := odd_loop h49 rfl (.clearMessages rfl)
  have h51 := odd_loop h50 rfl (.sendDone rfl)
  have h52 := odd_reachable h51 (by simp) (by simp)
    (.loop rfl (.endGame (7 : UInt64) rfl (by decide) rfl rfl (.completeSession ⟨0, 0⟩ _ _ rfl rfl)))
  have h53 := odd_reachable h52 (by simp) (by simp)
    (.call nofun (.findPlayer (1 : UInt64) (by decide) rfl))
  have h54 := odd_reachable h53 (by simp) (by simp) (.call nofun .closePlayer)
  refine ⟨_, h54, _, List.mem_append_right _ List.mem_cons_self, ?_⟩
  apply adaBobConfig_token
  decide +kernel

theorem odd_started :
    ∃ (gs : GameServer (ticTacToeTraits Nat) ClockedGame Unit)
      (g : Game (ticTacToeTraits Nat) ClockedGame),
      (ticTacToeServer sampleLibrary adaBobConfig 0).Reachable gs ∧
      gs.games.lookup 7 = some g ∧ g.game.game.started = true ∧
      g.game.game.playerList = [1, 2] ∧
      g.calls = [.connect 1, .connect 2, .update [] 0] := odd_started_and_won.1

section Results

variable {Hdl Worker : Type} [DecidableEq Hdl] [DecidableEq Worker] {lib : JsonLibrary}
  {cfg : Config (ticTacToeTraits Hdl)} {timestep : Int}
  {gs : GameServer (ticTacToeTraits Hdl) ClockedGame Worker} {sid : UInt64}
  {g : Game (ticTacToeTraits Hdl) ClockedGame}

/-- In every run of the tic tac toe server whose texts have what is read, each game belongs to a
session that a player joined with data that says that it was matched, and its state is that of the
replay of its moves; the search for ended games passes the state of such a game to
`complete_session`, once the game is done. -/
theorem hosted_game_replays (h : (ticTacToeServer lib cfg timestep).Reachable gs) :
    (∀ sid g, gs.games.lookup sid = some g →
      (∃ pid data, .handleOpen ⟨pid, sid⟩ data ∈ gs.base.log ∧
        data.atKey "matched" >>= Json.getBool = .value true) ∧
      g.game.game.Replays lib ∧ g.game.game.WellFormed) ∧
    ∀ evs gs' sid, (ticTacToeServer lib cfg timestep).step gs evs gs' → EndsGame gs gs' sid →
      ∃ g : Game (ticTacToeTraits Hdl) ClockedGame, gs.games.lookup sid = some g ∧
        g.game.game.isDone = true ∧ g.game.game.Replays lib ∧
        evs = [.completing sid ⟨sid, g.game.game.getState⟩] := by
  constructor
  · intro sid g hg
    obtain ⟨pid, data, ls, hd, hv, -, hr⟩ := ticTacToeServer_run h hg
    have hreach := playedGame_of_run hr
    exact ⟨⟨pid, data, hd, construct_valid.1 hv⟩,
      (TicTacToeGame.playedGame_boardPlayed.reachable hreach).replays,
      ticTacToe_wellFormed.reachable hreach.of_restrict⟩
  · rintro evs gs' sid ⟨⟨hn, inst, ⟨readings, undefined, rfl⟩, hstep⟩, -⟩ hends
    rcases hstep.outside hn with hloop | ⟨ho, -⟩
    · obtain ⟨g, hg, hd, hevs, -⟩ := hloop.ends_game hends
      obtain ⟨pid, data, ls, -, -, -, hr⟩ := ticTacToeServer_run h hg
      exact ⟨g, hg, hd, (TicTacToeGame.playedGame_boardPlayed.reachable
        (playedGame_of_run hr)).replays, hevs⟩
    · obtain ⟨⟨todo, hl⟩, hended⟩ := hends
      rw [ho.loop, hl] at hended
      cases hended

/-- Ada and Bob's game after its start. -/
theorem hosted_game_replays_started :
    ∃ (gs : GameServer (ticTacToeTraits Nat) ClockedGame Unit)
      (g : Game (ticTacToeTraits Nat) ClockedGame), gs.games.lookup 7 = some g ∧
      g.game.game.started = true ∧ g.game.game.Replays sampleLibrary := by
  obtain ⟨gs, g, h, hg, hs, -, -⟩ := odd_started
  exact ⟨gs, g, hg, hs, ((hosted_game_replays h).1 7 g hg).2.1⟩

/-- The players of each game connected to its session, and the players with the first two seats
sent its moves in turn, in messages to the session. -/
theorem hosted_game_authored (h : (ticTacToeServer lib cfg timestep).Reachable gs)
    (hg : gs.games.lookup sid = some g) :
    (∀ p ∈ g.game.game.playerList, ∃ data, .handleOpen ⟨p, sid⟩ data ∈ gs.base.log) ∧
    ∀ i move, g.game.game.moveList[i]? = some move →
      ∃ p text data, g.game.game.playerList[i % 2]? = some p ∧
        .handleMessage ⟨p, sid⟩ text ∈ gs.base.log ∧
        lib.parse text = some data ∧ data.key "move" = .value move :=
  hosted_authored h (ticTacToeServer_hosted h hg)

/-- Both have connected. -/
theorem hosted_game_authored_started :
    ∃ (gs : GameServer (ticTacToeTraits Nat) ClockedGame Unit)
      (g : Game (ticTacToeTraits Nat) ClockedGame), gs.games.lookup 7 = some g ∧
      g.game.game.playerList = [1, 2] ∧
      ∀ p ∈ g.game.game.playerList, ∃ data, .handleOpen ⟨p, 7⟩ data ∈ gs.base.log := by
  obtain ⟨gs, g, h, hg, -, hp, -⟩ := odd_started
  exact ⟨gs, g, hg, hp, (hosted_game_authored h hg).1⟩

/-- The two clocks of a game that no clock has ended have lost the time of the updates since the
start together, so that a clock ends each game that is updated for 200 seconds. -/
theorem hosted_game_clocks (h : (ticTacToeServer lib cfg timestep).Reachable gs)
    (hg : gs.games.lookup sid = some g) :
    (g.game.game.gameOver = false →
      g.game.game.times 0 + g.game.game.times 1 = 200000 - clockTime ∅ 0 g.calls ∧
        0 < g.game.game.times 0 ∧ 0 < g.game.game.times 1) ∧
    (200000 ≤ clockTime ∅ 0 g.calls → g.game.game.isDone = true) := by
  obtain ⟨pid, data, ls, -, hv, hls, hr⟩ := ticTacToeServer_run h hg
  have hclock (ho : g.game.game.gameOver = false) :
      g.game.game.totalTime = 200000 - clockTime ∅ 0 g.calls ∧ g.game.game.Ticking := by
    rw [← hls]
    exact TicTacToeGame.fresh_totalTime hr ⟨hv, rfl, rfl⟩ ho
  constructor
  · intro ho
    obtain ⟨htotal, hticking⟩ := hclock ho
    exact ⟨htotal, hticking 0, hticking 1⟩
  · intro ht
    cases ho : g.game.game.gameOver with
    | true => rw [TicTacToeGame.isDone, ho, Bool.or_true]
    | false =>
      obtain ⟨htotal, hticking⟩ := hclock ho
      have h0 := hticking 0
      have h1 := hticking 1
      rw [TicTacToeGame.totalTime] at htotal
      omega

/-- The update that starts the game takes no time from the clocks. -/
theorem hosted_game_clocks_started :
    ∃ (gs : GameServer (ticTacToeTraits Nat) ClockedGame Unit)
      (g : Game (ticTacToeTraits Nat) ClockedGame), gs.games.lookup 7 = some g ∧
      g.calls = [.connect 1, .connect 2, .update [] 0] ∧
      (g.game.game.gameOver = false → g.game.game.times 0 + g.game.game.times 1 = 200000) := by
  obtain ⟨gs, g, h, hg, -, -, hc⟩ := odd_started
  refine ⟨gs, g, hg, hc, fun ho => ?_⟩
  have htotal := ((hosted_game_clocks h hg).1 ho).1
  rw [hc] at htotal
  exact htotal

end Results

end WebGameServer
