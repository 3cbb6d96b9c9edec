import WebGameServer.GameServer.Instances
import WebGameServer.GameServer.Output

namespace WebGameServer
set_option autoImplicit true

section Instance

variable {T : Traits} {G : Type}

/-- What a call makes of a game, with what it appends to the output vector that it finds. -/
inductive Produces (inst : GameInstance T G) (g : G) :
    GameCall T → List (Message T) → G → Prop where
  | connect : inst.connect g out pid = (state, out ++ msgs) →
      Produces inst g (.connect pid) msgs state
  | disconnect : inst.disconnect g out pid = (state, out ++ msgs) →
      Produces inst g (.disconnect pid) msgs state
  | update : inst.update g out texts t = (state, out ++ msgs) →
      Produces inst g (.update texts t) msgs state

inductive Produced (P : GameInstance T G → Prop) : Game T G → List (Message T) → Prop where
  | create : P inst → inst.isValid (inst.construct data) = true →
      Produces inst (inst.construct data) (.connect pid) msgs state →
      Produced P ⟨state, [.connect pid]⟩ msgs
  | call : Produced P g msgs → P inst → Produces inst g.game c msgs' state →
      Produced P ⟨state, g.calls ++ [c]⟩ (msgs ++ msgs')

theorem Produces.instanceStep {inst : GameInstance T G} {g state : G} {c : GameCall T}
    {msgs : List (Message T)} (h : Produces inst g c msgs state) : InstanceStep inst g c state := by
  cases h with
  | @connect out pid _ _ h =>
    have hstep : InstanceStep inst g (.connect pid) (inst.connect g out pid).1 := .connect out pid
    rwa [h] at hstep
  | @disconnect out pid _ _ h =>
    have hstep : InstanceStep inst g (.disconnect pid) (inst.disconnect g out pid).1 :=
      .disconnect out pid
    rwa [h] at hstep
  | @update out texts t _ _ h =>
    have hstep : InstanceStep inst g (.update texts t) (inst.update g out texts t).1 :=
      .update out texts t
    rwa [h] at hstep

end Instance

section Local

variable {T : Traits} {G Worker : Type} {cfg : Config T} {inst : GameInstance T G}
  {timestep : Int} {gs gs' : GameServer T G Worker} {sid : T.SessionId} {g' : Game T G}

def GameServer.gained (gs gs' : GameServer T G Worker) (sid : T.SessionId) : List (Message T) :=
  gs.connected gs' sid ++ gs.added gs' sid

theorem gained_connecting (hl : gs.loop = .connecting t todo) :
    gs.gained gs' sid = gs.appended gs' sid := by
  simp only [GameServer.gained, GameServer.connected, GameServer.added, hl, GamePc.processing,
    GamePc.updatingGames, ↓reduceIte, Bool.false_eq_true, List.append_nil]

theorem gained_updating (hl : gs.loop = .updating t) :
    gs.gained gs' sid = gs.appended gs' sid := by
  simp only [GameServer.gained, GameServer.connected, GameServer.added, hl, GamePc.processing,
    GamePc.updatingGames, ↓reduceIte, Bool.false_eq_true, List.nil_append]

theorem gained_idle (hp : gs.loop.processing = false) (hu : gs.loop.updatingGames = false) :
    gs.gained gs' sid = [] := by
  simp only [GameServer.gained, GameServer.connected, GameServer.added, hp, hu,
    Bool.false_eq_true, ↓reduceIte, List.append_nil]

theorem result_eq {r : G × List (Message T)} (hout : gs'.outOf sid = r.2)
    (hp : gs.outOf sid <+: r.2) : r = (r.1, gs.outOf sid ++ gs.appended gs' sid) := by
  rw [← outOf_append (hout ▸ hp), hout]

/-- What `process_game_updates` leaves in the output vector of a session with a game. -/
theorem outOf_updated {order : List T.SessionId} (t : Int) (hn : order.Nodup)
    (ho : order.toFinset = gs.games.keys) (hg : gs.games.lookup sid = some g) :
    (gs.processGameUpdates inst t order).outOf sid =
      (inst.update g.game (gs.outOf sid) (gs.filed sid) t).2 := by
  have hall : ∀ a ∈ order, a ∈ gs.swapMessages.games.keys :=
    fun a hm => ho ▸ List.mem_toFinset.2 hm
  have hm : sid ∈ order := List.mem_toFinset.1 (ho ▸ (Map.mem_keys_iff _).2 ⟨g, hg⟩)
  have hout : (order.foldl (GameServer.updateGame inst t) gs.swapMessages).outMessages.lookup sid =
      _ := gs.swapMessages.outMessages_foldl_updateGame t hn hall sid
  rw [if_pos hm] at hout
  have hold : gs.swapMessages.games.lookup sid = some g := hg
  rw [hold, Option.map_some] at hout
  exact congrArg (Option.getD · []) hout

/-- How the game that a step leaves for a session and what the step appends to its output vector
belong together. -/
inductive GameOutput (inst : GameInstance T G) (gs gs' : GameServer T G Worker)
    (sid : T.SessionId) : Game T G → Prop where
  | keep : gs.games.lookup sid = some g → gs.gained gs' sid = [] → GameOutput inst gs gs' sid g
  | create : inst.isValid (inst.construct data) = true →
      Produces inst (inst.construct data) (.connect pid) (gs.gained gs' sid) state →
      GameOutput inst gs gs' sid ⟨state, [.connect pid]⟩
  | call : gs.games.lookup sid = some g → Produces inst g.game c (gs.gained gs' sid) state →
      GameOutput inst gs gs' sid ⟨state, g.calls ++ [c]⟩

theorem LoopStep.gameOutput (h : LoopStep cfg inst timestep gs evs gs') (ha : inst.Appends)
    (hg : gs'.games.lookup sid = some g') :
    GameOutput inst gs gs' sid g' := by
  -- The step stores the result of a call on the game of another session.
  have other {t : Int} {todo : List (ConnectionUpdate T)} (hl : gs.loop = .connecting t todo)
      (hout : gs'.outOf sid = gs.outOf sid) : gs.gained gs' sid = [] :=
    (gained_connecting hl).trans (appended_same hout)
  cases h with
  | @disconnectPlayer g _ cid t todo hl hold =>
    have hout := outOf_store gs cid.session sid (g.calls ++ [.disconnect cid.player])
      (inst.disconnect g.game (gs.outOf cid.session) cid.player)
    have hg₀ := (lookup_disconnectPlayer inst gs g cid sid).symm.trans hg
    by_cases he : sid = cid.session
    · subst he
      rw [if_pos rfl] at hg₀ hout
      cases hg₀
      apply GameOutput.call hold
      rw [gained_connecting hl]
      exact .disconnect (result_eq hout (ha.disconnect _ _ _))
    · rw [if_neg he] at hg₀ hout
      exact .keep hg₀ (other hl hout)
  | @connectPlayer g _ cid t todo data hl hold =>
    have hout := outOf_store gs cid.session sid (g.calls ++ [.connect cid.player])
      (inst.connect g.game (gs.outOf cid.session) cid.player)
    have hg₀ := (lookup_connectPlayer inst gs g cid sid).symm.trans hg
    by_cases he : sid = cid.session
    · subst he
      rw [if_pos rfl] at hg₀ hout
      cases hg₀
      apply GameOutput.call hold
      rw [gained_connecting hl]
      exact .connect (result_eq hout (ha.connect _ _ _))
    · rw [if_neg he] at hg₀ hout
      exact .keep hg₀ (other hl hout)
  | @createGame data _ cid t todo hl hn hv =>
    have hout := outOf_store (gs.createGame cid.session (inst.construct data)) cid.session sid
      ([] ++ [.connect cid.player]) (inst.connect (inst.construct data)
        ((gs.createGame cid.session (inst.construct data)).outOf cid.session) cid.player)
    have hg₀ := (lookup_connectPlayer inst (gs.createGame cid.session (inst.construct data))
      ⟨inst.construct data, []⟩ cid sid).symm.trans hg
    have hcreate := outOf_createGame gs cid.session sid (inst.construct data)
    by_cases he : sid = cid.session
    · subst he
      rw [if_pos rfl] at hg₀ hout
      cases hg₀
      apply GameOutput.create hv
      rw [gained_connecting hl, GameServer.appended, ← hcreate]
      exact .connect (result_eq hout (ha.connect _ _ _))
    · rw [if_neg he] at hg₀ hout
      have hold : (gs.createGame cid.session (inst.construct data)).games.lookup sid =
          gs.games.lookup sid := (Map.lookup_insert_ite _ _ _ _).trans (if_neg he)
      exact .keep (hold.symm.trans hg₀) (other hl (hout.trans hcreate))
  | disconnectIgnored hl | rejectData hl | clearUpdates hl => exact .keep hg (other hl rfl)
  | @eraseFinished a rest _ t hl hf =>
    have hg₀ := (gs.lookup_eraseGame a sid).symm.trans hg
    split at hg₀
    · cases hg₀
    · exact .keep hg₀ (gained_idle (by rw [hl]; rfl) (by rw [hl]; rfl))
  | @updateGames _ t order hl hn ho =>
    have hg₀ := (gs.lookup_processGameUpdates inst t order hn ho sid).symm.trans hg
    obtain ⟨g, hold, rfl⟩ := Option.map_eq_some_iff.1 hg₀
    apply GameOutput.call hold
    rw [gained_updating hl]
    exact .update (result_eq (outOf_updated t hn ho hold) (ha.update _ _ _ _))
  | enter _ hl | exit hl | lock hl | noGames hl | wait hl | pass hl | wakeStopped hl | wake hl
  | recheck hl | relock hl | sleep hl | swapUpdates hl | clearFinished hl | sendSession _ hl
  | sendMessage hl | clearMessages hl | sendDone hl | skipGame _ hl | endGame _ hl | pushFinished hl | finish hl =>
    exact .keep hg (gained_idle (by rw [hl]; rfl) (by rw [hl]; rfl))

/-- What a step sends and leaves to be sent is what was to be sent and what it appends. -/
theorem LoopStep.passes (h : LoopStep cfg inst timestep gs evs gs') (ha : inst.Appends)
    (hd : Drained gs) (he : ¬ Erases gs gs' sid) :
    evs.filterMap (Event.sentMessage sid) ++ gs'.remaining sid =
      gs.remaining sid ++ gs.gained gs' sid := by
  by_cases hb : BeginsTick gs gs'
  · obtain ⟨⟨t, hl⟩, hp⟩ := hb
    cases h with
    | swapUpdates hl' ht =>
      have hout : gs.outOf sid = [] :=
        hd (by rw [hl]; rfl) sid (by rw [hl]; exact Finset.notMem_empty _)
      have hrest : gs.remaining sid = [] := remaining_afterSending (by rw [hl]; rfl)
      rw [gained_idle (by rw [hl]; rfl) (by rw [hl]; rfl), hrest]
      exact hout
    | disconnectPlayer hl' | connectPlayer hl' | createGame hl' | disconnectIgnored hl'
    | rejectData hl' | eraseFinished hl' =>
      rw [hl] at hl'
      cases hl'
    | _ => cases hp
  · rw [h.forwards ha hb he, GameServer.gained, List.append_assoc]

end Local

section Run

variable {T : Traits} {G Worker : Type} [DecidableEq Worker] {cfg : Config T}
  {P : GameInstance T G → Prop} {timestep : Int} {gs gs' : GameServer T G Worker}
  {sid : T.SessionId} {g : Game T G}

/-- What the thread was called to send to players of the session, and what the tick still has to
send them. -/
def GameServer.sentFor (gs : GameServer T G Worker) (sid : T.SessionId) : List (Message T) :=
  gs.base.log.filterMap (Event.sentMessage sid) ++ gs.remaining sid

/-- All that the calls on a game have appended has been sent, in order, or is still to be sent in
this tick. -/
theorem produced_invariant (ha : ∀ inst, P inst → inst.Appends) :
    (varyingServer cfg P timestep).Invariant fun gs : GameServer T G Worker =>
      ∀ sid g, gs.games.lookup sid = some g →
        ∃ msgs, Produced P g msgs ∧ msgs <:+ gs.sentFor sid where
  init := by
    rintro gs ⟨t, rfl⟩ sid g hg
    cases hg
  step := by
    rintro gs evs gs' hr h ⟨hn, inst, hp, hstep⟩ sid g' hg'
    have hlog := hstep.log hn
    rcases hstep.outside hn with hloop | ⟨ho, hcalled⟩
    · have herased : ¬ Erases gs gs' sid := by
        intro he
        cases hg'.symm.trans (hloop.erases he)
      have hpasses := hloop.passes (ha inst hp) (drained_invariant.reachable hr) herased
      have hsent : gs'.sentFor sid = gs.sentFor sid ++ gs.gained gs' sid := by
        rw [GameServer.sentFor, hlog, List.filterMap_append, List.append_assoc, hpasses,
          ← List.append_assoc, GameServer.sentFor]
      rw [hsent]
      cases hloop.gameOutput (ha inst hp) hg' with
      | keep hg hnone =>
        obtain ⟨msgs, hm, hsuffix⟩ := h sid _ hg
        rw [hnone, List.append_nil]
        exact ⟨msgs, hm, hsuffix⟩
      | create hv hm => exact ⟨_, .create hp hv hm, List.suffix_append _ _⟩
      | call hg hm =>
        obtain ⟨msgs, hmsgs, before, he⟩ := h sid _ hg
        exact ⟨_, .call hmsgs hp hm, before, by rw [← he, List.append_assoc]⟩
    · rw [ho.games] at hg'
      obtain ⟨msgs, hm, hsuffix⟩ := h sid g' hg'
      have hout : gs'.outOf = gs.outOf := by
        funext a
        rw [GameServer.outOf, ho.outMessages, GameServer.outOf]
      rw [GameServer.sentFor, hlog, List.filterMap_append, sent_uncalled hcalled,
        List.append_nil, GameServer.remaining, ho.loop, hout]
      exact ⟨msgs, hm, hsuffix⟩

end Run

end WebGameServer
