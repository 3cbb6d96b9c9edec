import WebGameServer.TicTacToe.Seats

namespace WebGameServer
set_option autoImplicit true

namespace TicTacToeGame

variable {lib : JsonLibrary} {id : TicTacToePlayer} {g g' : TicTacToeGame} {seat : Fin 2}
  {square : Fin 9} {msgs out : List TicTacToeMessage} {deltaTime : Int}

section Refinement

def views (seat : Fin 2) (l : List Report) : List PageView := l.filterMap (Report.view seat)

/-- What a part of a call does for the player: it takes the commands that are given, and the
reports that are given are sent. -/
structure Refines (lib : JsonLibrary) (id : TicTacToePlayer) (seat : Fin 2) (taken : List (Fin 9))
    (sent : List Report) (g g' : TicTacToeGame) : Prop where
  seated : Seated lib id seat g'
  sound : ∀ r ∈ sent, r.Sound lib id seat
  follows : ∀ {vs shown up},
    ticTacToeReplica.system.Reachable ⟨g.view seat, vs, shown, taken ++ up⟩ →
      ticTacToeReplica.system.Reachable ⟨g'.view seat, vs ++ views seat sent, shown, up⟩

theorem views_append (seat : Fin 2) (l l' : List Report) :
    views seat (l ++ l') = views seat l ++ views seat l' := List.filterMap_append

theorem Refines.unchanged (h : Seated lib id seat g') (hsent : ∀ r ∈ sent, r.Sound lib id seat)
    (hnone : views seat sent = []) (hv : g'.view seat = g.view seat) :
    Refines lib id seat [] sent g g' where
  seated := h
  sound := hsent
  follows := by
    intro vs shown up hr
    rw [hnone, hv, List.append_nil]
    exact hr

theorem Refines.trans {g₁ g₂ g₃ : TicTacToeGame} (h : Refines lib id seat taken sent g₁ g₂)
    (h' : Refines lib id seat taken' sent' g₂ g₃) :
    Refines lib id seat (taken ++ taken') (sent ++ sent') g₁ g₃ where
  seated := h'.seated
  sound := by
    intro r hr
    rcases List.mem_append.1 hr with hr | hr
    · exact h.sound r hr
    · exact h'.sound r hr
  follows := by
    intro vs shown up hr
    rw [List.append_assoc] at hr
    rw [views_append, ← List.append_assoc]
    exact h'.follows (h.follows hr)

theorem Refines.report (h : Seated lib id seat g') (hf : g.isDone = false)
    (ht : ¬ ticTacToeReplica.turn (g.view seat) ∨ g'.isDone = true) :
    Refines lib id seat [] [.game g'] g g' where
  seated := h
  sound := by
    intro r hr
    rw [List.mem_singleton.1 hr]
    exact h.played
  follows := by
    intro vs shown up hr
    apply hr.step
    apply Replica.Step.report (g'.view seat)
    · exact fun hfinal => Bool.noConfusion (hf.symm.trans hfinal)
    · exact ht

theorem Seated.other {s s' : TicTacToeGame × List TicTacToeMessage}
    (h : Seated lib id seat s.1) (ht : takeMessage lib s msg = .value s') (hid : msg.1 ≠ id) :
    Refines lib id seat [] (reportsTo id (moveReports lib s [msg])) s.1 s'.1 := by
  rcases takeMessage_reports ht with ⟨⟨data, x, y, -, -, -, hd, hturn, -⟩, hm, hrep⟩ | ⟨-, rfl, hrep⟩
  · have h' := h.move hm
    rw [hrep, h'.told]
    apply Refines.report h' hd
    refine .inl fun hv => hid ?_
    have hown := (turn_iff h.nodup h.seat).2 ((view_turn _ _).1 hv).1
    exact Option.some.inj (hturn.symm.trans hown)
  · rw [hrep]
    exact .unchanged h (List.forall_mem_nil _) rfl rfl

theorem Seated.own {s s' : TicTacToeGame × List TicTacToeMessage} (hparse : ParsesMoves lib)
    (h : Seated lib id seat s.1)
    (ht : takeMessage lib s (id, GameData.moveText square) = .value s') :
    Refines lib id seat [square]
      (reportsTo id (moveReports lib s [(id, GameData.moveText square)])) s.1 s'.1 := by
  have hlegal := legalMove_iff square hparse h.started h.nodup h.seat
  rcases takeMessage_reports ht with ⟨hl, hm, hrep⟩ | ⟨hl, rfl, hrep⟩
  · have h' := h.move hm
    obtain ⟨hv, hsquare⟩ := hlegal.1 hl
    rw [hrep, h'.told]
    constructor
    · exact h'
    · intro r hr
      rw [List.mem_singleton.1 hr]
      exact h'.played
    · intro vs shown up hr
      apply hr.step
      apply Replica.Step.accept (s'.1.view seat) rfl hv hsquare
      intro hv'
      apply move_turn hm
      rw [((view_turn _ _).1 hv).1, ((view_turn _ _).1 hv').1]
  · rw [hrep]
    constructor
    · exact h
    · exact List.forall_mem_nil _
    · intro vs shown up hr
      rw [show views seat (reportsTo id []) = [] from rfl, List.append_nil]
      apply hr.step
      exact Replica.Step.ignore rfl fun hn => hl (hlegal.2 hn)

/-- The messages of an update, of which those of the player are the next commands. -/
theorem Seated.messages {s s' : TicTacToeGame × List TicTacToeMessage} (hparse : ParsesMoves lib)
    (h : Seated lib id seat s.1) (hf : msgs.foldlM (takeMessage lib) s = .value s')
    (htexts : (msgs.filter fun msg => msg.1 = id).map Prod.snd = taken.map GameData.moveText) :
    Refines lib id seat taken (reportsTo id (moveReports lib s msgs)) s.1 s'.1 := by
  induction msgs generalizing s taken with
  | nil =>
    cases hf
    cases List.map_eq_nil_iff.1 htexts.symm
    exact .unchanged h (List.forall_mem_nil _) rfl rfl
  | cons msg msgs ih =>
    rw [List.foldlM_cons] at hf
    obtain ⟨s₁, hfirst, hrest⟩ := Outcome.bind_eq_value.1 hf
    rw [moveReports_cons hfirst, reportsTo_append]
    by_cases hid : msg.1 = id
    · rw [List.filter_cons, if_pos (decide_eq_true hid), List.map_cons] at htexts
      cases taken with
      | nil => cases htexts
      | cons square taken =>
        rw [List.map_cons] at htexts
        injection htexts with htext htexts
        have hmsg : msg = (id, GameData.moveText square) := Prod.ext hid htext
        rw [hmsg] at hfirst ⊢
        have hown := h.own hparse hfirst
        exact hown.trans (ih hown.seated hrest htexts)
    · rw [List.filter_cons, if_neg (by simpa only [decide_eq_true_eq] using hid)] at htexts
      have hother := h.other hfirst hid
      exact hother.trans (ih hother.seated hrest htexts)

theorem Seated.of_eq (h : Seated lib id seat g) (hb : g'.BoardPlayed lib)
    (hs : g'.started = g.started) (hp : g'.playerList = g.playerList)
    (hd : g'.dataMap = g.dataMap) : Seated lib id seat g' where
  played := hb
  started := hs.trans h.started
  nodup := hp ▸ h.nodup
  seat := hp ▸ h.seat
  connected := by
    rw [isConnected, hd]
    exact h.connected

theorem Seated.advance (h : Seated lib id seat g) (hd : g.isDone = false)
    (out : List TicTacToeMessage) (deltaTime : Int) :
    Refines lib id seat [] (reportsTo id (g.advanceReports deltaTime)) g
      (g.advance lib out deltaTime).1 := by
  have hlast : Seated lib id seat (g.advance lib out deltaTime).1 := by
    apply h.of_eq (h.played.advance hd)
    · rw [advance_eq, runClock_eq]
    · rw [advance_eq, runClock_eq]
    · rw [advance_eq, runClock_eq]
  have hclock : Seated lib id seat (g.runClock deltaTime) := by
    have hadvance := advance_eq lib g out deltaTime
    apply hlast.of_eq
    · apply hlast.played.of_eq
      · rw [hadvance]
      · rw [hadvance]
      · rw [hadvance]
      · rw [hadvance]
      · rw [hadvance]
    · rw [hadvance]
    · rw [hadvance]
    · rw [hadvance]
  have hview : (g.advance lib out deltaTime).1.view seat = (g.runClock deltaTime).view seat := by
    rw [advance_eq]
    rfl
  rw [advanceReports, reportsTo_append]
  refine Refines.trans (?_ : Refines lib id seat [] _ g g) ?_
  · split
    · rw [hclock.told]
      apply Refines.unchanged h ?_ rfl rfl
      intro r hr
      rw [List.mem_singleton.1 hr]
      trivial
    · exact .unchanged h (List.forall_mem_nil _) rfl rfl
  · split
    · next hover =>
      rw [hclock.told]
      have hreport := Refines.report hclock hd (.inr hover)
      exact hreport.trans (.unchanged hlast (List.forall_mem_nil _) rfl hview)
    · next hover =>
      apply Refines.unchanged hlast (List.forall_mem_nil _) rfl
      apply advance_view
      rw [advance_eq]
      exact Bool.eq_false_iff.2 hover

theorem isConnected_insert (hid : q ≠ id) (b : Bool) (hc : g.isConnected id = true) :
    ((g.dataMap.insert q b).lookup id).getD false = true := by
  rw [Map.lookup_insert_ite, if_neg fun h => hid h.symm]
  exact hc

theorem seat_append {l : List TicTacToePlayer} (hseat : l[seat.val]? = some id)
    (l' : List TicTacToePlayer) : (l ++ l')[seat.val]? = some id := by
  obtain ⟨hlt, -⟩ := List.getElem?_eq_some_iff.1 hseat
  rw [List.getElem?_append_left hlt, hseat]

theorem Seated.call {c : TicTacToeCall} (hparse : ParsesMoves lib) (h : Seated lib id seat g)
    (hw : g'.WellFormed) (hconnect : c ≠ .connect id) (hdisconnect : c ≠ .disconnect id)
    (hu : g.Undone c) (hc : g.call lib [] c = .value (g', out))
    (htexts : c.textsOf id = taken.map GameData.moveText) :
    Refines lib id seat taken (reportsTo id (g.callReports lib [] c)) g g' := by
  cases c with
  | connect q =>
    have hid : q ≠ id := fun he => hconnect (he ▸ rfl)
    cases List.map_eq_nil_iff.1 htexts.symm
    have hreports : reportsTo id (g.callReports lib [] (.connect q)) = [] := by
      rw [callReports, if_pos h.started, reportsTo,
        List.filter_cons, if_neg (by simpa only [decide_eq_true_eq] using hid)]
      rfl
    have he := congrArg Prod.fst (Outcome.value.inj hc)
    rw [connect_eq] at he
    subst he
    rw [hreports]
    refine .unchanged ⟨?_, h.started, hw.nodup, ?_, ?_⟩ (List.forall_mem_nil _) rfl rfl
    · exact h.played.of_eq rfl rfl rfl rfl rfl
    · simp only
      split
      · exact seat_append h.seat [q]
      · exact h.seat
    · exact isConnected_insert hid true h.connected
  | disconnect q =>
    have hid : q ≠ id := fun he => hdisconnect (he ▸ rfl)
    cases List.map_eq_nil_iff.1 htexts.symm
    have he := congrArg Prod.fst (Outcome.value.inj hc)
    subst he
    refine .unchanged ⟨?_, h.started, hw.nodup, h.seat, ?_⟩ (List.forall_mem_nil _) rfl rfl
    · exact h.played.of_eq rfl rfl rfl rfl rfl
    · exact isConnected_insert hid false h.connected
  | update msgs deltaTime count =>
    have hover := (isDone_eq_false hu).2
    have hadvance := h.advance hu [] deltaTime
    simp only [TicTacToeGame.call, update_running h.started hover] at hc
    simp only [callReports, updateReports, h.started, hover, Bool.not_false, Bool.and_self,
      ↓reduceIte, reportsTo_append]
    exact hadvance.trans (hadvance.seated.messages hparse hc htexts)

end Refinement

section Start

structure Waiting (id : TicTacToePlayer) (g : TicTacToeGame) : Prop where
  started : g.started = false
  seat : ∃ seat : Fin 2, g.playerList[seat.val]? = some id
  connected : g.isConnected id = true

theorem head_seat {l : List TicTacToePlayer} (hn : l.Nodup) (hseat : l[seat.val]? = some id) :
    (if l.head? = some id then 0 else 1) = seat.val := by
  cases l with
  | nil => cases hseat
  | cons first rest =>
    obtain ⟨hfirst, -⟩ := List.nodup_cons.1 hn
    match seat with
    | 0 => exact if_pos hseat
    | 1 =>
      apply if_neg
      intro he
      cases he
      exact hfirst (List.mem_of_getElem? hseat)

theorem swap_seat {l : List TicTacToePlayer} (hl : 1 < l.length)
    (hseat : l[seat.val]? = some id) : ∃ seat : Fin 2, (swapPlayers l)[seat.val]? = some id := by
  match l with
  | first :: second :: rest =>
    match seat with
    | 0 => exact ⟨1, hseat⟩
    | 1 => exact ⟨0, hseat⟩

/-- A call for a player who waits leaves the player waiting or starts the game, of which the
player is told. -/
theorem Waiting.call {c : TicTacToeCall} (h : Waiting id g) (hb : g'.BoardPlayed lib)
    (hw : g'.WellFormed) (hdisconnect : c ≠ .disconnect id)
    (hc : g.call lib [] c = .value (g', out)) :
    Waiting id g' ∧ reportsTo id (g.callReports lib [] c) = [] ∨
      ∃ seat, Seated lib id seat g' ∧ reportsTo id (g.callReports lib [] c) = [.full g'] ∧
        (Report.full g').Sound lib id seat := by
  obtain ⟨hs, ⟨seat, hseat⟩, hconnected⟩ := h
  cases c with
  | connect q =>
    have he := congrArg Prod.fst (Outcome.value.inj hc)
    rw [connect_eq] at he
    subst he
    refine .inl ⟨⟨hs, ⟨seat, ?_⟩, ?_⟩, ?_⟩
    · simp only
      split
      · exact seat_append hseat [q]
      · exact hseat
    · rw [isConnected, Map.lookup_insert_ite]
      split
      · rfl
      · exact hconnected
    · simp only [callReports, hs, Bool.false_eq_true, ↓reduceIte]
      rfl
  | disconnect q =>
    have hid : q ≠ id := fun he => hdisconnect (he ▸ rfl)
    have he := congrArg Prod.fst (Outcome.value.inj hc)
    subst he
    exact .inl ⟨⟨hs, ⟨seat, hseat⟩, isConnected_insert hid false hconnected⟩, rfl⟩
  | update msgs deltaTime count =>
    simp only [TicTacToeGame.call, update_idle (.inl hs)] at hc
    simp only [callReports, updateReports, hs, Bool.false_and, Bool.false_eq_true, ↓reduceIte]
    split at hc
    · next hv =>
      obtain ⟨-, hl⟩ := Bool.and_eq_true_iff.1 hv
      have he := congrArg Prod.fst (Outcome.value.inj hc)
      rw [if_pos hv]
      have hstart : ∃ seat : Fin 2, g'.playerList[seat.val]? = some id := by
        subst he
        simp only [start]
        split
        · exact swap_seat (of_decide_eq_true hl) hseat
        · exact ⟨seat, hseat⟩
      obtain ⟨seat', hseat'⟩ := hstart
      have hseated : Seated lib id seat' g' := by
        refine ⟨hb, ?_, hw.nodup, hseat', ?_⟩
        · subst he
          rfl
        · subst he
          exact hconnected
      refine .inr ⟨seat', hseated, ?_, hb, head_seat hw.nodup hseat'⟩
      have hstarted : (g.start lib [] count).1 = g' := he
      rw [hstarted]
      exact hseated.told _
    · next hv =>
      have he := congrArg Prod.fst (Outcome.value.inj hc)
      subst he
      rw [if_neg hv]
      exact .inl ⟨⟨hs, ⟨seat, hseat⟩, hconnected⟩, rfl⟩

end Start

end TicTacToeGame

end WebGameServer
