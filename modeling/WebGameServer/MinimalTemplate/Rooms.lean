import WebGameServer.GameServer.Results
import WebGameServer.MinimalTemplate.Game

namespace WebGameServer
set_option autoImplicit true

open MinimalGame

section Calls

variable {Hdl : Type} [DecidableEq Hdl] {lib : JsonLibrary} {order : Insertion}
  {inst : GameInstance (minimalTraits Hdl) MinimalGame} {g state : MinimalGame} {id : UInt64}
  {c : GameCall (minimalTraits Hdl)} {msgs : List MinimalMessage}

theorem minimalInstance_appends (h : PlaysMinimal Hdl lib inst) : inst.Appends := by
  obtain ⟨order, rfl⟩ := h
  constructor
  · exact fun g out pid => List.prefix_rfl
  · exact fun g out pid => List.prefix_rfl
  · intro g out msgs t
    exact ⟨_, (update_eq out msgs).symm⟩

theorem playsMinimal_endsInUpdate : EndsInUpdate (PlaysMinimal Hdl lib) (fun _ => false) where
  isDone inst hp g hd := by cases hd
  construct _ _ _ _ := rfl
  connect _ _ _ _ _ := rfl
  disconnect _ _ _ _ _ := rfl

theorem InstanceStep.room (h : InstanceStep (minimalInstance Hdl lib order) g c state)
    (id : UInt64) : decide (id ∈ state.playerList) = stays id (decide (id ∈ g.playerList)) c := by
  rw [Bool.eq_iff_iff, decide_eq_true_iff]
  cases h with
  | connect out pid =>
    rw [stays, Bool.or_eq_true, decide_eq_true_iff, beq_iff_eq]
    exact mem_connect
  | disconnect out pid =>
    rw [stays, Bool.and_eq_true, decide_eq_true_iff, bne_iff_ne]
    exact mem_disconnect
  | update out texts t => exact decide_eq_true_iff.symm

theorem Produces.texts (h : Produces (minimalInstance Hdl lib order) g c msgs state)
    (id : UInt64) :
    textsFor id msgs = if decide (id ∈ g.playerList) = true then spokenIn lib c else [] := by
  cases h with
  | @connect out pid _ _ h | @disconnect out pid _ _ h =>
    obtain ⟨-, hout⟩ := Prod.mk.inj h
    obtain rfl := List.self_eq_append_right.1 hout
    exact (ite_self _).symm
  | @update out texts t _ _ h =>
    obtain ⟨-, hout⟩ := Prod.mk.inj h
    obtain rfl := List.append_cancel_left ((update_eq out texts).symm.trans hout)
    simp only [decide_eq_true_eq]
    exact textsFor_update texts

theorem Produced.room (h : Produced (PlaysMinimal Hdl lib) game msgs) (id : UInt64) :
    decide (id ∈ game.game.playerList) = present id game.calls ∧
      textsFor id msgs = heard lib id game.calls := by
  induction h with
  | create hp hv hm =>
    obtain ⟨order, rfl⟩ := hp
    exact ⟨hm.instanceStep.room id, hm.texts id⟩
  | call hprev hp hm ih =>
    obtain ⟨order, rfl⟩ := hp
    obtain ⟨hin, htexts⟩ := ih
    have hin' := hm.instanceStep.room id
    have htexts' := hm.texts id
    rw [hin] at hin' htexts'
    rw [present_append, heard, heardFrom_append, textsFor_append]
    exact ⟨hin', by rw [htexts, htexts']; rfl⟩

theorem Hosted.room (h : Hosted (PlaysMinimal Hdl lib) done log sid game) (id : UInt64) :
    decide (id ∈ game.game.playerList) = present id game.calls := by
  obtain ⟨inst, pid, data, rest, ⟨order, rfl⟩, -, -, -, hr⟩ := h.played
  refine hr.of_restrict.fold (I := fun inside g => decide (id ∈ g.playerList) = inside) ?_ ?_
  · rintro inside g c state - rfl ⟨inst, ⟨order, rfl⟩, hstep⟩
    exact hstep.room id
  · rfl

end Calls

def roomConfig : Config (minimalTraits Nat) where
  verify text := if text = "ada" then some (⟨1, 7⟩, .null) else none
  getResultStr _ data := data.render
  sessionReleaseTime := 60000

def frontInsertion : Insertion := ⟨fun l id => id :: l, fun _ _ => .refl _⟩

theorem room_step {gs gs' : GameServer (minimalTraits Nat) MinimalGame Unit}
    (h : (minimalServer sampleLibrary roomConfig 0).Reachable gs) (hn : .stopping ∉ evs)
    (hs : GameStep roomConfig (minimalInstance Nat sampleLibrary frontInsertion) 0 gs evs gs') :
    (minimalServer sampleLibrary roomConfig 0).Reachable gs' :=
  h.step ⟨hn, _, ⟨frontInsertion, rfl⟩, hs⟩

theorem room_loop {gs gs' : GameServer (minimalTraits Nat) MinimalGame Unit}
    (h : (minimalServer sampleLibrary roomConfig 0).Reachable gs)
    (hidle : gs.base.caller () = .idle)
    (hs : LoopStep roomConfig (minimalInstance Nat sampleLibrary frontInsertion) 0 gs [] gs') :
    (minimalServer sampleLibrary roomConfig 0).Reachable gs' :=
  room_step h List.not_mem_nil (.loop hidle hs)

/-- Ada enters the room, says something and leaves. She is told when she comes back. -/
theorem ada_said_and_left :
    (∃ (gs : GameServer (minimalTraits Nat) MinimalGame Unit)
      (g : Game (minimalTraits Nat) MinimalGame),
      (minimalServer sampleLibrary roomConfig 0).Reachable gs ∧ gs.games.lookup 7 = some g ∧
      g.calls = [.connect 1, .update [(1, "hi")] 0]) ∧
    ∃ gs : GameServer (minimalTraits Nat) MinimalGame Unit,
      (minimalServer sampleLibrary roomConfig 0).Reachable gs ∧
      .result ⟨1, 7⟩ (roomConfig.getResultStr ⟨1, 7⟩ getState) ∈ gs.base.log := by
  have h0 : (minimalServer sampleLibrary roomConfig 0).Reachable
      (GameServer.start 0 : GameServer (minimalTraits Nat) MinimalGame Unit) := .init ⟨0, rfl⟩
  have h1 := room_step h0 (by simp) (.run (.run rfl))
  have h2 := room_step h1 (by simp) (.transport (.onMessage (5 : Nat) "ada"))
  have h3 := room_step h2 (by simp) (.transport (.onMessage (5 : Nat) "hi"))
  have h4 := room_step h3 (by simp) (.worker () (.enter rfl) nofun)
  have h5 := room_step h4 (by simp) (.worker () (.pop rfl) nofun)
  have h6 := room_step h5 (by simp) (.worker () (.messageUnbound rfl rfl) nofun)
  have h7 := room_step h6 (by simp) (.worker () (.openSession ⟨0, 0⟩ rfl rfl rfl) nofun)
  have h8 := room_step h7 (by simp) (.worker () .setupConnectionId nofun)
  have h9 := room_step h8 (by simp) (.worker () .handleOpen nofun)
  have h10 := room_step h9 (by simp) (.worker () (.enter rfl) nofun)
  have h11 := room_step h10 (by simp) (.worker () (.pop rfl) nofun)
  have h12 := room_step h11 (by simp) (.worker () (.messageBound rfl rfl) nofun)
  have h13 := room_step h12 (by simp) (.worker () .handleMessage nofun)
  have h14 := room_loop h13 rfl (.enter 0 rfl rfl)
  have h15 := room_loop h14 rfl (.noGames rfl rfl)
  have h16 := room_loop h15 rfl (.pass rfl nofun)
  have h17 := room_loop h16 rfl (.relock rfl)
  have h18 := room_loop h17 rfl (.swapUpdates rfl (by decide))
  have h19 := room_loop h18 rfl (.createGame rfl rfl rfl)
  have h20 := room_loop h19 rfl (.clearUpdates rfl)
  have h21 := room_loop h20 rfl (.clearFinished rfl rfl)
  have h22 := room_loop h21 rfl (.updateGames [(7 : UInt64)] rfl (by decide) rfl)
  refine ⟨⟨_, _, h22, rfl, rfl⟩, ?_⟩
  have h23 := room_loop h22 rfl (.sendSession (7 : UInt64) rfl (by decide))
  have h24 := room_step h23 (by simp) (.loop rfl (.sendMessage rfl (.sendMessage _ _ rfl)))
  have h25 := room_step h24 (by simp) (.call nofun .pushMessage)
  have h26 := room_loop h25 rfl (.clearMessages rfl)
  have h27 := room_loop h26 rfl (.sendDone rfl)
  have h28 := room_loop h27 rfl (.skipGame (7 : UInt64) rfl (by decide) rfl rfl)
  have h29 := room_loop h28 rfl (.finish rfl)
  have h30 := room_step h29 (by simp) (.worker () (.enter rfl) nofun)
  have h31 := room_step h30 (by simp) (.worker () (.pop rfl) nofun)
  have h32 := room_step h31 (by simp) (.worker () (.outMessage rfl) nofun)
  have h33 := room_step h32 (by simp) (.transport (.onClose (5 : Nat)))
  have h34 := room_step h33 (by simp) (.worker () (.enter rfl) nofun)
  have h35 := room_step h34 (by simp) (.worker () (.pop rfl) nofun)
  have h36 := room_step h35 (by simp) (.worker () (.unsubscribeBound rfl rfl) nofun)
  have h37 := room_step h36 (by simp) (.worker () .disconnectConnection nofun)
  have h38 := room_step h37 (by simp) (.worker () (.disconnectSession rfl) nofun)
  have h39 := room_step h38 (by simp) (.worker () .uncount nofun)
  have h40 := room_step h39 (by simp) (.worker () .handleClose nofun)
  have h41 := room_loop h40 rfl (.enter 0 rfl rfl)
  have h42 := room_loop h41 rfl (.lock rfl fun he =>
    Option.some_ne_none _ (congrArg (Finmap.lookup (7 : UInt64)) he))
  have h43 := room_loop h42 rfl (.swapUpdates rfl (by decide))
  have h44 := room_loop h43 rfl (.disconnectPlayer rfl rfl)
  have h45 := room_loop h44 rfl (.clearUpdates rfl)
  have h46 := room_loop h45 rfl (.clearFinished rfl rfl)
  have h47 := room_loop h46 rfl (.updateGames [(7 : UInt64)] rfl (by decide) rfl)
  have h48 := room_loop h47 rfl (.sendSession (7 : UInt64) rfl (by decide))
  have h49 := room_loop h48 rfl (.clearMessages rfl)
  have h50 := room_loop h49 rfl (.sendDone rfl)
  have h51 := room_step h50 (by simp) (.loop rfl
    (.endGame (7 : UInt64) rfl (by decide) rfl rfl (.completeSession ⟨0, 0⟩ _ _ rfl rfl)))
  have h52 := room_step h51 (by simp) (.call nofun .lockSession)
  have h53 := room_step h52 (by simp) (.transport (.onMessage (6 : Nat) "ada"))
  have h54 := room_step h53 (by simp) (.worker () (.enter rfl) nofun)
  have h55 := room_step h54 (by simp) (.worker () (.pop rfl) nofun)
  have h56 := room_step h55 (by simp) (.worker () (.messageUnbound rfl rfl) nofun)
  have h57 := room_step h56 (by simp) (.worker () (.lockedSession ⟨0, 0⟩ rfl rfl rfl) nofun)
  exact ⟨_, h57, List.mem_append_right _ List.mem_cons_self⟩

section Main

variable {Hdl Worker : Type} [DecidableEq Hdl] [DecidableEq Worker] {lib : JsonLibrary}
  {cfg : Config (minimalTraits Hdl)} {timestep : Int}
  {gs : GameServer (minimalTraits Hdl) MinimalGame Worker} {sid : UInt64}
  {g : Game (minimalTraits Hdl) MinimalGame}

/-- A room relays what is said in it. It has the players who have connected and not disconnected
since; each of them is sent the texts for the messages that came in meanwhile, each once and in one
order for all, and these messages were sent to the session by the players they name. -/
theorem room_relays (h : (minimalServer lib cfg timestep).Reachable gs)
    (hg : gs.games.lookup sid = some g) :
    (∀ id, id ∈ g.game.playerList ↔ present id g.calls = true) ∧
    (∀ id, heard lib id g.calls <:+ textsFor id (gs.sentFor sid) ∧
      (heard lib id g.calls).Sublist (spoken lib g.calls)) ∧
    ∀ text ∈ spoken lib g.calls, ∃ id msg, text = lib.dump (relayed (id, msg)) ∧
      .handleMessage ⟨id, sid⟩ msg ∈ gs.base.log := by
  obtain ⟨msgs, hm, hsuffix⟩ :=
    (produced_invariant fun _ hp => minimalInstance_appends hp).reachable h sid g hg
  have hosted := ((hosting_invariant playsMinimal_endsInUpdate).reachable h).hosted sid g hg
  refine ⟨fun id => ?_, fun id => ⟨?_, heardFrom_sublist⟩, ?_⟩
  · rw [← (hm.room id).1, decide_eq_true_iff]
  · rw [← (hm.room id).2]
    exact hsuffix.filterMap _
  · intro text htext
    obtain ⟨c, hc, htext⟩ := List.mem_flatMap.1 htext
    cases c with
    | connect | disconnect => cases htext
    | update texts t =>
      obtain ⟨msg, hmsg, rfl⟩ := List.mem_map.1 htext
      exact ⟨msg.1, msg.2, rfl, hosted.caused _ hc msg hmsg⟩

/-- Ada, who is in the room, is sent what she said. -/
theorem room_relays_ada :
    ∃ (gs : GameServer (minimalTraits Nat) MinimalGame Unit)
      (g : Game (minimalTraits Nat) MinimalGame), gs.games.lookup 7 = some g ∧
      1 ∈ g.game.playerList ∧ 2 ∉ g.game.playerList ∧
      [relayedText sampleLibrary (1, "hi")] <:+ textsFor 1 (gs.sentFor 7) ∧
      ∃ id msg, relayedText sampleLibrary (1, "hi") = sampleLibrary.dump (relayed (id, msg)) ∧
        .handleMessage ⟨id, 7⟩ msg ∈ gs.base.log := by
  obtain ⟨gs, g, h, hg, hc⟩ := ada_said_and_left.1
  obtain ⟨hin, hheard, hspoken⟩ := room_relays h hg
  rw [hc] at hin hheard hspoken
  have htwo : 2 ∉ g.game.playerList := by
    rw [hin 2]
    decide
  exact ⟨gs, g, hg, (hin 1).2 rfl, htwo, (hheard 1).1, hspoken _ List.mem_cons_self⟩

end Main

end WebGameServer
