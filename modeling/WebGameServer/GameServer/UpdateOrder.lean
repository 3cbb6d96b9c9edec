import WebGameServer.GameServer.Batches

namespace WebGameServer
set_option autoImplicit true

namespace GameServer

variable {T : Traits} {G Worker : Type} {inst : GameInstance T G} {gs : GameServer T G Worker}

/-- The messages filed under the session for the next `process_game_updates`. -/
def filed (gs : GameServer T G Worker) (sid : T.SessionId) : List (Message T) :=
  (gs.inMessages.1.lookup sid).getD []

/-- The output vector that the update of the game of a session leaves. -/
def sent (inst : GameInstance T G) (t : Int) (gs : GameServer T G Worker) (sid : T.SessionId)
    (g : Game T G) : List (Message T) :=
  (inst.update g.game (gs.outOf sid) (gs.batchOf sid) t).2

theorem outMessages_updateGame (gs : GameServer T G Worker) (t : Int) {a : T.SessionId}
    (hg : gs.games.lookup a = some g) (sid : T.SessionId) :
    (gs.updateGame inst t a).outMessages.lookup sid =
      if sid = a then some (gs.sent inst t a g) else gs.outMessages.lookup sid := by
  rw [updateGame_present t hg]
  simp only [store, Map.lookup_insert_ite, sent]

theorem outOf_updateGame_ne (gs : GameServer T G Worker) (t : Int) {a sid : T.SessionId}
    (h : sid ≠ a) : (gs.updateGame inst t a).outOf sid = gs.outOf sid := by
  cases hg : gs.games.lookup a with
  | none => rw [updateGame_absent t hg]
  | some g => rw [outOf, outMessages_updateGame gs t hg, if_neg h, outOf]

theorem batchOf_updateGame (gs : GameServer T G Worker) (t : Int) (a sid : T.SessionId) :
    (gs.updateGame inst t a).batchOf sid = gs.batchOf sid := by
  simp only [updateGame]
  split <;> rfl

theorem sent_updateGame_ne (gs : GameServer T G Worker) (t : Int) {a sid : T.SessionId}
    (h : sid ≠ a) (g : Game T G) :
    (gs.updateGame inst t a).sent inst t sid g = gs.sent inst t sid g := by
  rw [sent, outOf_updateGame_ne gs t h, batchOf_updateGame, sent]

/-- The output vector of a session changes with the update of its own game only. -/
theorem outMessages_foldl_updateGame (gs : GameServer T G Worker) (t : Int)
    {order : List T.SessionId} (hn : order.Nodup)
    (ho : ∀ sid ∈ order, sid ∈ gs.games.keys) (sid : T.SessionId) :
    (order.foldl (updateGame inst t) gs).outMessages.lookup sid =
      if sid ∈ order then (gs.games.lookup sid).map (gs.sent inst t sid)
      else gs.outMessages.lookup sid := by
  induction order generalizing gs with
  | nil => rw [List.foldl_nil, if_neg List.not_mem_nil]
  | cons a order ih =>
    obtain ⟨ha, hn⟩ := List.nodup_cons.1 hn
    obtain ⟨g, hg⟩ := (Map.mem_keys_iff _).1 (ho a List.mem_cons_self)
    have hkeys : ∀ b ∈ order, b ∈ (gs.updateGame inst t a).games.keys := by
      intro b hb
      have hb := ho b (List.mem_cons_of_mem _ hb)
      rw [Map.mem_keys_iff] at hb ⊢
      rw [lookup_updateGame]
      split
      · obtain ⟨g', hg'⟩ := hb
        exact ⟨_, congrArg (Option.map _) hg'⟩
      · exact hb
    rw [List.foldl_cons, ih _ hn hkeys]
    simp only [List.mem_cons]
    by_cases h : sid = a
    · subst h
      simp only [ha, ↓reduceIte, true_or, outMessages_updateGame gs t hg, hg, Option.map_some]
    · simp only [h, false_or, lookup_updateGame_ne inst gs t h,
        outMessages_updateGame gs t hg, ↓reduceIte]
      by_cases hm : sid ∈ order
      · simp only [hm, ↓reduceIte]
        congr 1
        funext g
        exact sent_updateGame_ne gs t h g
      · simp only [hm, ↓reduceIte]

/-- What an iteration of the loop finds with `at` has not been touched by the earlier ones. -/
theorem lookup_before_updateGame (gs : GameServer T G Worker) (t : Int)
    (hk : gs.outMessages.keys = gs.games.keys) {before after : List T.SessionId}
    {sid : T.SessionId} (hn : (before ++ sid :: after).Nodup)
    (ho : (before ++ sid :: after).toFinset = gs.games.keys) :
    ∃ g out, gs.games.lookup sid = some g ∧ gs.outMessages.lookup sid = some out ∧
      (before.foldl (updateGame inst t) gs).games.lookup sid = some g ∧
      (before.foldl (updateGame inst t) gs).outMessages.lookup sid = some out := by
  have hall : ∀ a ∈ before ++ sid :: after, a ∈ gs.games.keys := by
    intro a ha
    rw [← ho]
    exact List.mem_toFinset.2 ha
  have hkey := hall sid (List.mem_append_right _ List.mem_cons_self)
  have hbefore : ∀ a ∈ before, a ∈ gs.games.keys :=
    fun a ha => hall a (List.mem_append_left _ ha)
  obtain ⟨hn, -, hdisjoint⟩ := List.nodup_append.1 hn
  have hnot : sid ∉ before := fun h => hdisjoint sid h sid List.mem_cons_self rfl
  obtain ⟨g, hg⟩ := (Map.mem_keys_iff _).1 hkey
  obtain ⟨out, hout⟩ := (Map.mem_keys_iff _).1 (hk ▸ hkey)
  refine ⟨g, out, hg, hout, ?_, ?_⟩
  · rw [lookup_foldl_updateGame _ _ _ _ hn, if_neg hnot, hg]
  · rw [outMessages_foldl_updateGame gs t hn hbefore, if_neg hnot, hout]

/-- The order in which `process_game_updates` goes through the games does not matter: each game
is updated once, with the messages filed under its session and its own output vector. Every `at`
finds that vector, whichever updates came before. -/
theorem game_updates_in_any_order (inst : GameInstance T G) (gs : GameServer T G Worker) (t : Int)
    (hk : gs.outMessages.keys = gs.games.keys) {order order' : List T.SessionId}
    (hn : order.Nodup) (ho : order.toFinset = gs.games.keys) (hp : order.Perm order') :
    gs.processGameUpdates inst t order' = gs.processGameUpdates inst t order ∧
      (∀ sid, (gs.processGameUpdates inst t order).games.lookup sid =
        (gs.games.lookup sid).map fun g =>
          ⟨(inst.update g.game (gs.outOf sid) (gs.filed sid) t).1,
            g.calls ++ [.update (gs.filed sid) t]⟩) ∧
      (∀ sid, (gs.processGameUpdates inst t order).outMessages.lookup sid =
        (gs.games.lookup sid).map fun g =>
          (inst.update g.game (gs.outOf sid) (gs.filed sid) t).2) ∧
      ∀ before sid after, order' = before ++ sid :: after →
        ∃ g out, gs.games.lookup sid = some g ∧ gs.outMessages.lookup sid = some out ∧
          (before.foldl (updateGame inst t) gs.swapMessages).games.lookup sid = some g ∧
          (before.foldl (updateGame inst t) gs.swapMessages).outMessages.lookup sid =
            some out := by
  have hall : ∀ sid ∈ order, sid ∈ gs.swapMessages.games.keys := by
    intro sid hs
    exact ho ▸ List.mem_toFinset.2 hs
  refine ⟨?_, fun sid => ?_, fun sid => ?_, ?_⟩
  · have hfold := hp.foldl_eq' (fun a _ b _ gs => updateGame_comm inst gs t a b)
      gs.swapMessages
    rw [processGameUpdates, processGameUpdates, hfold]
  · exact gs.lookup_processGameUpdates inst t order hn ho sid
  · simp only [processGameUpdates]
    rw [outMessages_foldl_updateGame _ t hn hall]
    by_cases hs : sid ∈ order
    · rw [if_pos hs]
      rfl
    · rw [if_neg hs]
      have habsent : sid ∉ gs.games.keys := by
        rw [← ho]
        exact fun h => hs (List.mem_toFinset.1 h)
      have hgame : gs.games.lookup sid = none := Finmap.lookup_eq_none.2 habsent
      rw [hgame]
      have hout : sid ∉ gs.outMessages.keys := hk ▸ habsent
      exact Finmap.lookup_eq_none.2 hout
  · rintro before sid after rfl
    have hto : (before ++ sid :: after).toFinset = gs.games.keys := by
      rw [← ho]
      exact (List.toFinset_eq_of_perm _ _ hp).symm
    exact gs.swapMessages.lookup_before_updateGame t hk (hp.nodup_iff.1 hn) hto

/-- Sessions 7 and 8 in both orders, with a message filed under session 7. -/
theorem game_updates_in_any_order_two :
    ∃ gs : GameServer natTraits Nat Unit, gs.games.keys = {(7 : Nat), (8 : Nat)} ∧
      gs.processGameUpdates natGame 5 [(8 : Nat), (7 : Nat)] =
        gs.processGameUpdates natGame 5 [(7 : Nat), (8 : Nat)] ∧
      ((gs.processGameUpdates natGame 5 [(7 : Nat), (8 : Nat)]).games.lookup (7 : Nat)).map
        Game.game = some 1 ∧
      ((gs.processGameUpdates natGame 5 [(7 : Nat), (8 : Nat)]).games.lookup (8 : Nat)).map
        Game.game = some 0 := by
  let idle : GameServer natTraits Nat Unit := .start 0
  let gs : GameServer natTraits Nat Unit :=
    { idle with
      games := (Finmap.singleton (7 : Nat) ⟨0, []⟩).insert (8 : Nat) ⟨0, []⟩
      outMessages := (Finmap.singleton (7 : Nat) []).insert (8 : Nat) []
      inMessages := (Finmap.singleton (7 : Nat) [((1 : Nat), "hi")], ∅) }
  have hkeys : gs.outMessages.keys = gs.games.keys := rfl
  have hn : ([7, 8] : List Nat).Nodup := by decide
  have ho : ([7, 8] : List Nat).toFinset = gs.games.keys := by decide
  have hp : ([7, 8] : List Nat).Perm [8, 7] := .swap _ _ _
  obtain ⟨heq, hgames, -⟩ := game_updates_in_any_order natGame gs 5 hkeys hn ho hp
  refine ⟨gs, by decide, heq, ?_, ?_⟩
  · rw [hgames]
    rfl
  · rw [hgames]
    rfl

end GameServer

end WebGameServer
