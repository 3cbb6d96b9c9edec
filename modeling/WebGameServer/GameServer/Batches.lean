import WebGameServer.GameServer.LifeCycle
import WebGameServer.Library.DoubleBuffer

namespace WebGameServer
set_option autoImplicit true

/-- The entry that the handler called for the event appends for the session. -/
def Event.inMessage {T : Traits} (sid : T.SessionId) : Event T → Option (Message T)
  | .handleMessage id msg => if id.session = sid then some (id.player, msg) else none
  | _ => none

theorem Event.inMessage_of_unhandled {T : Traits} (sid : T.SessionId) (e : Event T)
    (h : e.handled = false) : e.inMessage sid = none := by
  cases e <;> first | rfl | cases h

/-- The messages that an `update` was passed. -/
def GameCall.messages {T : Traits} : GameCall T → List (Message T)
  | .update msgs _ => msgs
  | _ => []

/-- The connection updates that a step to the other program point takes from those left. -/
def GamePc.taken {T : Traits} (pc pc' : GamePc T) : List (ConnectionUpdate T) :=
  pc.todo.take (pc.todo.length - pc'.todo.length)

/-- The game server with the inside of `process_game_updates`. There `batch` holds the sessions
whose games are not updated yet. -/
structure BatchServer (T : Traits) (G Worker : Type) where
  server : GameServer T G Worker
  batch : Option (Finset T.SessionId)

/-- What a step shows, the connection updates it processes and for each session the messages
that it passes to `update` or drops. -/
structure BatchLabel (T : Traits) where
  evs : List (Event T)
  processed : List (ConnectionUpdate T)
  passed : T.SessionId → List (Message T)
  dropped : T.SessionId → List (Message T)

section Steps

variable {T : Traits} {G Worker : Type}

/-- The messages of the session in the batch that is run. -/
def GameServer.batchOf (gs : GameServer T G Worker) (sid : T.SessionId) : List (Message T) :=
  (gs.inMessages.2.lookup sid).getD []

variable [DecidableEq Worker]

/-- The steps of the game server, where `process_game_updates` takes a step for the swap of the
messages, one for each game, in any order, and one for the clear of the second map. -/
inductive BatchStep (cfg : Config T) (inst : GameInstance T G) (timestep : Int) :
    BatchServer T G Worker → BatchLabel T → BatchServer T G Worker → Prop where
  | outer (h : GameStep cfg inst timestep gs evs gs')
      (hloop : ∀ t, gs.loop = .updating t → gs'.loop = .updating t) :
      BatchStep cfg inst timestep ⟨gs, batch⟩
        ⟨evs, gs.loop.taken gs'.loop, fun _ => [], fun _ => []⟩ ⟨gs', batch⟩
  | swapMessages : gs.loop = .updating t → gs.base.caller () = .idle →
      BatchStep cfg inst timestep ⟨gs, none⟩ ⟨[], [], fun _ => [], fun _ => []⟩
        ⟨gs.swapMessages, some gs.games.keys⟩
  | updateGame (sid : T.SessionId) : gs.loop = .updating t → sid ∈ todo →
      gs.games.lookup sid = some g →
      BatchStep cfg inst timestep ⟨gs, some todo⟩
        ⟨[], [], fun a => if a = sid then gs.batchOf sid else [], fun _ => []⟩
        ⟨gs.updateGame inst t sid, some (todo.erase sid)⟩
  | clearMessages : gs.loop = .updating t →
      BatchStep cfg inst timestep ⟨gs, some ∅⟩
        ⟨[], [], fun _ => [], fun a => if a ∈ gs.games.keys then [] else gs.batchOf a⟩
        ⟨{ gs with
            inMessages := (gs.inMessages.1, ∅)
            loop := .sending gs.outMessages.keys }, none⟩

/-- The game server without `stop`. -/
def batchServer (cfg : Config T) (inst : GameInstance T G) (timestep : Int) :
    LTS (BatchServer T G Worker) (BatchLabel T) where
  init σ := ∃ lastUpdate, σ = ⟨.start lastUpdate, none⟩
  step σ l σ' := .stopping ∉ l.evs ∧ BatchStep cfg inst timestep σ l σ'

end Steps

section Views

variable {T : Traits} {G Worker : Type} {cfg : Config T} {inst : GameInstance T G}
  {timestep : Int} {gs gs' : GameServer T G Worker} {sid : T.SessionId}

/-- `m_connection_updates` with the loop that processes them. -/
def GameServer.updates (gs : GameServer T G Worker) : DoubleBuffer (ConnectionUpdate T) where
  first := gs.connectionUpdates.1
  second := gs.connectionUpdates.2
  working := gs.loop.processing
  todo := gs.loop.todo

/-- The entry of a session in `m_in_messages` with the loop over the games, in which the messages
of a session without a game are left until the clear. -/
def BatchServer.messages (sid : T.SessionId) (σ : BatchServer T G Worker) :
    DoubleBuffer (Message T) where
  first := (σ.server.inMessages.1.lookup sid).getD []
  second := σ.server.batchOf sid
  working := σ.batch.isSome
  todo :=
    match σ.batch with
    | some todo => if sid ∈ todo ∨ sid ∉ σ.server.games.keys then σ.server.batchOf sid else []
    | none => []

def BatchLabel.updates (l : BatchLabel T) : Flow (ConnectionUpdate T) :=
  ⟨l.evs.filterMap Event.connectionUpdate, l.processed⟩

def BatchLabel.messages (sid : T.SessionId) (l : BatchLabel T) : Flow (Message T) :=
  ⟨l.evs.filterMap (Event.inMessage sid), l.passed sid ++ l.dropped sid⟩

theorem GameServer.updateGame_absent (t : Int) (h : gs.games.lookup a = none) :
    gs.updateGame inst t a = gs := by
  simp only [updateGame, h]

theorem GameServer.updateGame_present (t : Int) (h : gs.games.lookup a = some g) :
    gs.updateGame inst t a = gs.store a (g.calls ++ [.update (gs.batchOf a) t])
      (inst.update g.game (gs.outOf a) (gs.batchOf a) t) := by
  simp only [updateGame, h, batchOf]

theorem GameServer.lookup_updateGame_ne (inst : GameInstance T G) (gs : GameServer T G Worker)
    (t : Int) {a b : T.SessionId}
    (h : b ≠ a) : (gs.updateGame inst t a).games.lookup b = gs.games.lookup b := by
  rw [lookup_updateGame, if_neg h]

theorem GamePc.todo_idle {pc : GamePc T} (h : pc.processing = false) : pc.todo = [] := by
  cases pc with
  | connecting t todo => cases h
  | _ => rfl

theorem GamePc.taken_idle {pc pc' : GamePc T} (h : pc.processing = false) :
    pc.taken pc' = [] := by
  rw [GamePc.taken, GamePc.todo_idle h, List.take_nil]

theorem GamePc.taken_self (pc : GamePc T) : pc.taken pc = [] := by
  rw [GamePc.taken, Nat.sub_self, List.take_zero]

theorem GamePc.taken_next (t : Int) (u : ConnectionUpdate T) (todo : List (ConnectionUpdate T)) :
    (GamePc.connecting t (u :: todo)).taken (.connecting t todo) = [u] := by
  simp only [GamePc.taken, GamePc.todo, List.length_cons, Nat.add_sub_cancel_left,
    List.take_succ_cons, List.take_zero]

theorem LoopStep.updates (h : LoopStep cfg inst timestep gs evs gs') :
    DoubleBuffer.Step gs.updates
      ⟨evs.filterMap Event.connectionUpdate, gs.loop.taken gs'.loop⟩ gs'.updates := by
  -- Outside of `process_connection_updates`.
  have idle {pc : GamePc T} (hl : gs.loop = pc) (hp : pc.processing = false)
      (hp' : gs'.loop.processing = false)
      (hu : gs'.connectionUpdates = gs.connectionUpdates) :
      DoubleBuffer.Step gs.updates ⟨[], gs.loop.taken gs'.loop⟩ gs'.updates := by
    subst hl
    rw [GamePc.taken_idle hp]
    refine .of_eq ?_
    rw [GameServer.updates, GameServer.updates, hu, hp, hp', GamePc.todo_idle hp,
      GamePc.todo_idle hp']
  have next {t : Int} {u : ConnectionUpdate T} {todo : List (ConnectionUpdate T)}
      (hl : gs.loop = .connecting t (u :: todo)) (hl' : gs'.loop = .connecting t todo)
      (hu : gs'.connectionUpdates = gs.connectionUpdates) :
      DoubleBuffer.Step gs.updates ⟨[], gs.loop.taken gs'.loop⟩ gs'.updates := by
    have hstep : DoubleBuffer.Step gs.updates ⟨[], [u]⟩ { gs.updates with todo := todo } :=
      .take (congrArg GamePc.processing hl) (congrArg GamePc.todo hl)
    have hview : gs'.updates = { gs.updates with todo := todo } := by
      simp only [GameServer.updates, hl, hl', hu, GamePc.processing, GamePc.todo]
    rw [hview, hl, hl', GamePc.taken_next]
    exact hstep
  cases h with
  | enter t hl hr | exit hl hr | lock hl hg | noGames hl hg | wait hl hu | pass hl hu
  | wakeStopped hl hr | wake hl hr hu | recheck hl hr hu | relock hl | sleep hl ht
  | sendSession a hl hm | sendMessage hl hc | clearMessages hl | sendDone hl
  | skipGame a hl hm hg hd | endGame a hl hm hg hd hc | pushFinished hl | finish hl
  | clearFinished hl hf =>
    exact idle hl rfl rfl rfl
  | eraseFinished hl hf => exact idle hl rfl (congrArg GamePc.processing hl) rfl
  | updateGames order hl hn ho =>
    exact idle hl rfl rfl (by rw [GameServer.processGameUpdates_eq])
  | disconnectPlayer hl hg | connectPlayer hl hg | createGame hl hn hv
  | disconnectIgnored hl hg | rejectData hl hn hv hc => exact next hl rfl rfl
  | @swapUpdates _ t hl ht =>
    have hstep := DoubleBuffer.Step.swap (b := gs.updates) (congrArg GamePc.processing hl)
    rw [hl, GamePc.taken_idle rfl]
    exact hstep
  | @clearUpdates _ t hl =>
    have hstep := DoubleBuffer.Step.clear (b := gs.updates) (congrArg GamePc.processing hl)
    have htodo : gs.updates.todo = [] := congrArg GamePc.todo hl
    rw [htodo] at hstep
    rw [hl]
    exact hstep

theorem GameServer.handle_inMessages (gs : GameServer T G Worker) (e : Event T) :
    ((gs.handle e).inMessages.1.lookup sid).getD [] =
      (gs.inMessages.1.lookup sid).getD [] ++ (e.inMessage sid).toList := by
  cases e with
  | handleMessage id msg =>
    simp only [GameServer.handle, GameServer.processMessage, Map.lookup_insert_ite,
      Event.inMessage]
    by_cases h : sid = id.session
    · subst h
      simp only [↓reduceIte, Option.getD_some, Option.toList_some]
    · simp only [h, Ne.symm h, ↓reduceIte, Option.toList_none, List.append_nil]
  | _ => exact (List.append_nil _).symm

theorem GameServer.foldl_handle_inMessages (gs : GameServer T G Worker) (evs : List (Event T)) :
    ((evs.foldl GameServer.handle gs).inMessages.1.lookup sid).getD [] =
      (gs.inMessages.1.lookup sid).getD [] ++ evs.filterMap (Event.inMessage sid) := by
  induction evs generalizing gs with
  | nil => exact (List.append_nil _).symm
  | cons e evs ih =>
    rw [List.foldl_cons, ih, handle_inMessages, List.append_assoc]
    congr 1
    cases he : e.inMessage sid with
    | none => rw [List.filterMap_cons_none he, Option.toList_none, List.nil_append]
    | some m => rw [List.filterMap_cons_some he, Option.toList_some, List.singleton_append]

theorem GameServer.foldl_handle_batch (gs : GameServer T G Worker) (evs : List (Event T)) :
    (evs.foldl GameServer.handle gs).inMessages.2 = gs.inMessages.2 := by
  induction evs generalizing gs with
  | nil => rfl
  | cons e evs ih =>
    rw [List.foldl_cons, ih]
    cases e <;> rfl

/-- The messages that the game of the session was passed by `update`. -/
def GameServer.passedTo (gs : GameServer T G Worker) (sid : T.SessionId) : List (Message T) :=
  match gs.games.lookup sid with
  | some g => g.calls.flatMap GameCall.messages
  | none => []

theorem passedTo_store (hg : gs.games.lookup a = some g) (cs : List (GameCall T))
    (r : G × List (Message T)) :
    (gs.store a (g.calls ++ cs) r).passedTo sid =
      gs.passedTo sid ++ if sid = a then cs.flatMap GameCall.messages else [] := by
  simp only [GameServer.passedTo, GameServer.store, Map.lookup_insert_ite]
  by_cases h : sid = a
  · subst h
    simp only [↓reduceIte, hg, List.flatMap_append]
  · simp only [h, ↓reduceIte, List.append_nil]

theorem LoopStep.passedTo (h : LoopStep cfg inst timestep gs evs gs')
    (hl : ∀ t, gs.loop ≠ .updating t) (hg : gs'.games.lookup sid ≠ none) :
    gs'.passedTo sid = gs.passedTo sid := by
  cases h with
  | disconnectPlayer hl₀ hg₀ | connectPlayer hl₀ hg₀ =>
    apply (passedTo_store hg₀ _ _).trans
    simp only [List.flatMap_cons, List.flatMap_nil, GameCall.messages, List.append_nil, ite_self]
  | @createGame data gs cid t todo hl₀ hn hv =>
    have hnew : (gs.createGame cid.session (inst.construct data)).games.lookup cid.session =
        some ⟨inst.construct data, []⟩ := Finmap.lookup_insert _
    apply (passedTo_store hnew [.connect cid.player] _).trans
    simp only [List.flatMap_cons, List.flatMap_nil, GameCall.messages, List.append_nil, ite_self,
      GameServer.passedTo, GameServer.createGame, Map.lookup_insert_ite]
    by_cases h : sid = cid.session
    · subst h
      simp only [↓reduceIte, hn, List.flatMap_nil]
    · simp only [h, ↓reduceIte]
  | @eraseFinished a rest _ t hl₀ hf =>
    have hlookup := gs.lookup_eraseGame a sid
    split at hlookup
    · exact (hg hlookup).elim
    · exact congrArg (fun m => match m with
        | some g => g.calls.flatMap GameCall.messages
        | none => []) hlookup
  | updateGames order hl₀ hn ho => exact (hl _ hl₀).elim
  | _ => rfl

/-- A step outside the loop leaves everything but the two queues and changes these by a push. -/
structure Pushes (gs : GameServer T G Worker) (evs : List (Event T))
    (gs' : GameServer T G Worker) : Prop where
  games : gs'.games = gs.games
  loop : gs'.loop = gs.loop
  updates : gs'.connectionUpdates =
    (gs.connectionUpdates.1 ++ evs.filterMap Event.connectionUpdate, gs.connectionUpdates.2)
  messages : ∀ sid, (gs'.inMessages.1.lookup sid).getD [] =
    (gs.inMessages.1.lookup sid).getD [] ++ evs.filterMap (Event.inMessage sid)
  batch : gs'.inMessages.2 = gs.inMessages.2

theorem Pushes.of_unhandled (hevs : ∀ e ∈ evs, e.handled = false) (hgames : gs'.games = gs.games)
    (hloop : gs'.loop = gs.loop) (hupdates : gs'.connectionUpdates = gs.connectionUpdates)
    (hmessages : gs'.inMessages = gs.inMessages) : Pushes gs evs gs' where
  games := hgames
  loop := hloop
  updates := by
    rw [hupdates, filterMap_unhandled hevs Event.connectionUpdate_of_unhandled, List.append_nil]
  messages sid := by
    rw [hmessages, filterMap_unhandled hevs (Event.inMessage_of_unhandled sid), List.append_nil]
  batch := by rw [hmessages]

theorem LoopStep.messages (h : LoopStep cfg inst timestep gs evs gs')
    (hl : ∀ t, gs.loop ≠ .updating t) (sid : T.SessionId) :
    gs'.inMessages = gs.inMessages ∧ evs.filterMap (Event.inMessage sid) = [] := by
  cases h with
  | updateGames order hl₀ hn ho => exact (hl _ hl₀).elim
  | _ => exact ⟨rfl, rfl⟩

theorem LoopStep.not_updating (h : LoopStep cfg inst timestep gs evs gs')
    (hloop : ∀ t, gs.loop = .updating t → gs'.loop = .updating t) :
    ∀ t, gs.loop ≠ .updating t := by
  intro t hl
  have hl' := hloop t hl
  cases h with
  | eraseFinished hl₀ | clearFinished hl₀ =>
    rw [hl] at hl₀
    cases hl₀
  | _ => cases hl'

end Views

section Run

variable {T : Traits} {G Worker : Type} [DecidableEq Worker] {cfg : Config T}
  {inst : GameInstance T G} {P : GameInstance T G → Prop} {timestep : Int}
  {gs gs' : GameServer T G Worker} {σ σ' : BatchServer T G Worker} {l : BatchLabel T}
  {sid : T.SessionId}

theorem GameStep.pushes (h : GameStep cfg inst timestep gs evs gs') (hn : .stopping ∉ evs) :
    LoopStep cfg inst timestep gs evs gs' ∨ Pushes gs evs gs' := by
  cases h with
  | transport h => exact .inr (.of_unhandled h.unhandled rfl rfl rfl rfl)
  | worker w h hfree =>
    refine .inr ⟨?_, ?_, ?_, fun sid => gs.foldl_handle_inMessages evs,
      gs.foldl_handle_batch evs⟩
    · rw [GameServer.foldl_handle_eq]
    · rw [GameServer.foldl_handle_eq]
    · rw [GameServer.foldl_handle_eq]
  | loop hidle h => exact .inl h
  | call hbusy h => exact .inr (.of_unhandled h.unhandled rfl rfl rfl rfl)
  | run h => exact .inr (.of_unhandled h.unhandled rfl rfl rfl rfl)
  | stop h => cases h <;> exact (hn List.mem_cons_self).elim

omit [DecidableEq Worker] in
theorem GameServer.updateGame_eq (gs : GameServer T G Worker) (inst : GameInstance T G)
    (t : Int) (a : T.SessionId) :
    gs.updateGame inst t a =
      { gs with
        games := (gs.updateGame inst t a).games
        outMessages := (gs.updateGame inst t a).outMessages } :=
  gs.foldl_updateGame_eq inst t [a]

omit [DecidableEq Worker] in
theorem GameServer.updateGame_keys (gs : GameServer T G Worker) (inst : GameInstance T G)
    (t : Int) (hg : gs.games.lookup a = some g) :
    (gs.updateGame inst t a).games.keys = gs.games.keys := by
  simp only [GameServer.updateGame, hg, GameServer.store]
  exact Map.keys_insert_present _ ((Map.mem_keys_iff _).2 ⟨g, hg⟩) _

theorem GameStep.updates (h : GameStep cfg inst timestep gs evs gs') (hn : .stopping ∉ evs) :
    DoubleBuffer.Step gs.updates
      ⟨evs.filterMap Event.connectionUpdate, gs.loop.taken gs'.loop⟩ gs'.updates := by
  rcases h.pushes hn with h | hp
  · exact h.updates
  · have hstep : DoubleBuffer.Step gs.updates
        ⟨evs.filterMap Event.connectionUpdate, gs.loop.taken gs'.loop⟩
        { gs.updates with
          first := gs.updates.first ++ evs.filterMap Event.connectionUpdate } := by
      rw [hp.loop, GamePc.taken_self]
      exact .push _
    have hview : gs'.updates =
        { gs.updates with
          first := gs.updates.first ++ evs.filterMap Event.connectionUpdate } := by
      simp only [GameServer.updates, hp.updates, hp.loop]
    exact hview ▸ hstep

/-- What is left of the second list is gone when the next tick swaps the lists. -/
theorem updates_cleared : (varyingServer cfg P timestep).Invariant
    fun gs : GameServer T G Worker => gs.updates.Cleared where
  init := by
    intro gs hinit
    obtain ⟨t, rfl⟩ := hinit
    exact fun _ => ⟨rfl, rfl⟩
  step _ hs := by
    intro h
    obtain ⟨hn, inst, -, h⟩ := h
    exact (h.updates hn).cleared hs

theorem BatchStep.updates (h : BatchStep cfg inst timestep σ l σ') (hn : .stopping ∉ l.evs) :
    DoubleBuffer.Step σ.server.updates l.updates σ'.server.updates := by
  cases h with
  | outer h hloop => exact h.updates hn
  | swapMessages hl hidle => exact .of_eq rfl
  | updateGame a hl hm hg =>
    refine .of_eq ?_
    rw [GameServer.updateGame_eq]
    rfl
  | clearMessages hl =>
    refine .of_eq ?_
    simp only [GameServer.updates, hl, GamePc.processing, GamePc.todo]

theorem BatchStep.messages (h : BatchStep cfg inst timestep σ l σ') (hn : .stopping ∉ l.evs)
    (hb : σ.batch ≠ none → ∃ t, σ.server.loop = .updating t) :
    DoubleBuffer.Step (σ.messages sid) (l.messages sid) (σ'.messages sid) := by
  cases h with
  | @outer gs evs gs' batch h hloop =>
    rcases h.pushes hn with h | hp
    · have hnot := h.not_updating hloop
      cases batch with
      | some todo =>
        obtain ⟨t, hl⟩ := hb (Option.some_ne_none _)
        exact (hnot t hl).elim
      | none =>
        obtain ⟨hmessages, hevs⟩ := h.messages hnot sid
        rw [BatchLabel.messages, hevs]
        refine .of_eq ?_
        simp only [BatchServer.messages, GameServer.batchOf, hmessages]
    · have hview : BatchServer.messages sid ⟨gs', batch⟩ =
          { BatchServer.messages sid ⟨gs, batch⟩ with
            first := (BatchServer.messages sid ⟨gs, batch⟩).first ++
              evs.filterMap (Event.inMessage sid) } := by
        simp only [BatchServer.messages, GameServer.batchOf, hp.messages, hp.batch, hp.games]
      rw [hview]
      exact .push _
  | @swapMessages gs t hl hidle =>
    have hview : BatchServer.messages sid ⟨gs.swapMessages, some gs.games.keys⟩ =
        ⟨gs.batchOf sid, (gs.inMessages.1.lookup sid).getD [], true,
          (gs.inMessages.1.lookup sid).getD []⟩ := by
      have hall : sid ∈ gs.games.keys ∨ sid ∉ gs.games.keys := em _
      exact congrArg (DoubleBuffer.mk _ _ _) (if_pos hall)
    rw [hview]
    exact .swap rfl
  | @updateGame todo g gs t a hl hm hg =>
    have hkey : a ∈ gs.games.keys := (Map.mem_keys_iff _).2 ⟨g, hg⟩
    have hview : BatchServer.messages sid ⟨gs.updateGame inst t a, some (todo.erase a)⟩ =
        { BatchServer.messages sid ⟨gs, some todo⟩ with
          todo := if sid ∈ todo.erase a ∨ sid ∉ gs.games.keys then gs.batchOf sid else [] } := by
      simp only [BatchServer.messages, gs.updateGame_keys inst t hg]
      rw [GameServer.updateGame_eq]
      rfl
    rw [hview]
    by_cases hsid : sid = a
    · subst hsid
      have hbefore : (BatchServer.messages sid ⟨gs, some todo⟩).todo = gs.batchOf sid ++ [] := by
        rw [List.append_nil]
        exact if_pos (.inl hm)
      have hafter : ¬ (sid ∈ todo.erase sid ∨ sid ∉ gs.games.keys) :=
        not_or.2 ⟨Finset.notMem_erase _ _, not_not_intro hkey⟩
      rw [if_neg hafter]
      simp only [BatchLabel.messages, ↓reduceIte, List.append_nil, List.filterMap_nil]
      exact .take rfl hbefore
    · have hiff : (sid ∈ todo.erase a ∨ sid ∉ gs.games.keys) ↔
          (sid ∈ todo ∨ sid ∉ gs.games.keys) := by
        rw [Finset.mem_erase, and_iff_right hsid]
      simp only [BatchLabel.messages, if_neg hsid, hiff, List.append_nil, List.filterMap_nil]
      exact .of_eq rfl
  | @clearMessages gs t hl =>
    have hview : BatchServer.messages sid ⟨{ gs with
        inMessages := (gs.inMessages.1, ∅)
        loop := .sending gs.outMessages.keys }, none⟩ =
        { BatchServer.messages sid ⟨gs, some ∅⟩ with
          second := []
          working := false
          todo := [] } := rfl
    have htodo : (BatchServer.messages sid ⟨gs, some ∅⟩).todo =
        if sid ∈ gs.games.keys then [] else gs.batchOf sid := by
      simp only [BatchServer.messages, Finset.notMem_empty, false_or, ite_not]
    have hstep := DoubleBuffer.Step.clear (b := BatchServer.messages sid ⟨gs, some ∅⟩) rfl
    rw [htodo] at hstep
    rw [hview]
    exact hstep

theorem batch_invariant : (batchServer cfg inst timestep).Invariant
    fun σ : BatchServer T G Worker =>
      σ.batch ≠ none → ∃ t, σ.server.loop = .updating t where
  init := by
    intro σ hinit h
    obtain ⟨t, rfl⟩ := hinit
    exact (h rfl).elim
  step {σ l σ'} _ hb h := by
    obtain ⟨-, h⟩ := h
    cases h with
    | outer h hloop =>
      intro hbatch
      obtain ⟨t, hl⟩ := hb hbatch
      exact ⟨t, hloop t hl⟩
    | @swapMessages gs t hl hidle => exact fun _ => ⟨t, hl⟩
    | @updateGame todo g gs t a hl hm hg =>
      refine fun _ => ⟨t, ?_⟩
      rw [GameServer.updateGame_eq]
      exact hl
    | clearMessages hl => exact fun h => (h rfl).elim

/-- The game of a session is passed what the step shows, and messages are dropped only if the
session has no game. -/
theorem BatchStep.passes (h : BatchStep cfg inst timestep σ l σ') (hn : .stopping ∉ l.evs) :
    (σ'.server.games.lookup sid ≠ none →
      σ'.server.passedTo sid = σ.server.passedTo sid ++ l.passed sid) ∧
    (l.passed sid ≠ [] → σ'.server.games.lookup sid ≠ none) ∧
    (l.dropped sid ≠ [] → σ.server.games.lookup sid = none) := by
  cases h with
  | @outer gs evs gs' batch h hloop =>
    refine ⟨fun hg => ?_, fun hp => (hp rfl).elim, fun hd => (hd rfl).elim⟩
    rw [List.append_nil]
    rcases h.pushes hn with h | hp
    · exact h.passedTo (h.not_updating hloop) hg
    · simp only [GameServer.passedTo, hp.games]
  | swapMessages hl hidle =>
    exact ⟨fun _ => (List.append_nil _).symm, fun hp => (hp rfl).elim, fun hd => (hd rfl).elim⟩
  | @updateGame todo g gs t a hl hm hg =>
    have he : gs.updateGame inst t a = gs.store a (g.calls ++ [.update (gs.batchOf a) t])
        (inst.update g.game (gs.outOf a) (gs.batchOf a) t) := GameServer.updateGame_present t hg
    refine ⟨fun _ => ?_, fun hp => ?_, fun hd => (hd rfl).elim⟩
    · dsimp only
      rw [he, passedTo_store hg]
      by_cases h : sid = a
      · rw [if_pos h, if_pos h, h]
        exact congrArg (gs.passedTo a ++ ·) (List.append_nil _)
      · rw [if_neg h, if_neg h]
    · have hsid : sid = a := by
        by_contra hne
        exact hp (if_neg hne)
      subst hsid
      refine fun hnone => (Map.notMem_keys_iff _).2 hnone ?_
      rw [gs.updateGame_keys inst t hg]
      exact (Map.mem_keys_iff _).2 ⟨g, hg⟩
  | @clearMessages gs t hl =>
    refine ⟨fun _ => (List.append_nil _).symm, fun hp => (hp rfl).elim, fun hd => ?_⟩
    exact (Map.notMem_keys_iff _).1 fun hm => hd (if_pos hm)

end Run

section Refinement

variable {T : Traits} {G Worker : Type} {cfg : Config T} {inst : GameInstance T G}
  {timestep : Int} {gs gs' : GameServer T G Worker} {σ : BatchServer T G Worker}

namespace GameServer

def withOuter (gs : GameServer T G Worker) (base : System T Worker Unit)
    (updates : List (ConnectionUpdate T) × List (ConnectionUpdate T))
    (msgs : Map T.SessionId (List (Message T))) : GameServer T G Worker :=
  { gs with base := base, connectionUpdates := updates, inMessages := (msgs, gs.inMessages.2) }

/-- What is left of `process_game_updates` with the games updated in the given order. -/
def finishBatch (inst : GameInstance T G) (gs : GameServer T G Worker) (deltaTime : Int)
    (order : List T.SessionId) : GameServer T G Worker :=
  let gs' := order.foldl (updateGame inst deltaTime) gs
  { gs' with
    inMessages := (gs'.inMessages.1, ∅)
    loop := .sending gs'.outMessages.keys }

theorem updateGame_comm (inst : GameInstance T G) (gs : GameServer T G Worker) (t : Int)
    (a b : T.SessionId) :
    (gs.updateGame inst t a).updateGame inst t b =
      (gs.updateGame inst t b).updateGame inst t a := by
  by_cases hab : a = b
  · rw [hab]
  have ha := lookup_updateGame_ne inst gs t hab
  have hb := lookup_updateGame_ne inst gs t (Ne.symm hab)
  cases hga : gs.games.lookup a with
  | none =>
    rw [hga] at ha
    rw [updateGame_absent t hga, updateGame_absent t ha]
  | some g =>
    cases hgb : gs.games.lookup b with
    | none =>
      rw [hgb] at hb
      rw [updateGame_absent t hgb, updateGame_absent t hb]
    | some g' =>
      rw [hga] at ha
      rw [hgb] at hb
      rw [updateGame_present t ha, updateGame_present t hb, updateGame_present t hga,
        updateGame_present t hgb]
      simp only [store, batchOf, outOf, Map.lookup_insert_ite, if_neg hab, if_neg (Ne.symm hab),
        Finmap.insert_insert_of_ne _ hab]

theorem finishBatch_perm (gs : GameServer T G Worker) (t : Int) {order order' : List T.SessionId}
    (h : order.Perm order') : gs.finishBatch inst t order = gs.finishBatch inst t order' := by
  have hfold : order.foldl (updateGame inst t) gs = order'.foldl (updateGame inst t) gs :=
    h.foldl_eq' (fun a _ b _ gs => updateGame_comm inst gs t a b) gs
  rw [finishBatch, finishBatch, hfold]

theorem updateGame_withOuter (gs : GameServer T G Worker) (t : Int) (a : T.SessionId)
    (base : System T Worker Unit)
    (updates : List (ConnectionUpdate T) × List (ConnectionUpdate T))
    (msgs : Map T.SessionId (List (Message T))) :
    (gs.withOuter base updates msgs).updateGame inst t a =
      (gs.updateGame inst t a).withOuter base updates msgs := by
  simp only [updateGame, withOuter]
  split <;> rfl

theorem finishBatch_withOuter (gs : GameServer T G Worker) (t : Int)
    (order : List T.SessionId) (base : System T Worker Unit)
    (updates : List (ConnectionUpdate T) × List (ConnectionUpdate T))
    (msgs : Map T.SessionId (List (Message T))) :
    (gs.withOuter base updates msgs).finishBatch inst t order =
      (gs.finishBatch inst t order).withOuter base updates msgs := by
  have hfold : order.foldl (updateGame inst t) (gs.withOuter base updates msgs) =
      (order.foldl (updateGame inst t) gs).withOuter base updates msgs := by
    induction order generalizing gs with
    | nil => rfl
    | cons a order ih => rw [List.foldl_cons, updateGame_withOuter, ih, List.foldl_cons]
  rw [finishBatch, hfold]
  rfl

end GameServer

/-- The state of the game server in which all of `process_game_updates` was done at the swap. -/
def Completes (inst : GameInstance T G) (σ : BatchServer T G Worker)
    (gs : GameServer T G Worker) : Prop :=
  (σ.batch = none → gs = σ.server) ∧
    ∀ todo t, σ.batch = some todo → σ.server.loop = .updating t →
      ∀ order : List T.SessionId, order.Nodup → order.toFinset = todo →
        gs = σ.server.finishBatch inst t order

variable [DecidableEq Worker]

omit [DecidableEq Worker] in
theorem foldl_handle_first {c : GameServer T G Worker} (evs : List (Event T))
    (h : c.inMessages.1 = gs.inMessages.1) :
    (evs.foldl GameServer.handle c).inMessages.1 =
      (evs.foldl GameServer.handle gs).inMessages.1 := by
  induction evs generalizing c gs with
  | nil => exact h
  | cons e evs ih =>
    apply ih
    cases e with
    | handleMessage id msg => simp only [GameServer.handle, GameServer.processMessage, h]
    | _ => exact h

theorem GameStep.outer (h : GameStep cfg inst timestep gs evs gs')
    (hloop : ¬ LoopStep cfg inst timestep gs evs gs') (hn : .stopping ∉ evs) :
    gs' = gs.withOuter gs'.base gs'.connectionUpdates gs'.inMessages.1 ∧
    ∀ c : GameServer T G Worker, c.base = gs.base → c.connectionUpdates = gs.connectionUpdates →
      c.inMessages.1 = gs.inMessages.1 → c.loop.holdsUpdates = false →
      GameStep cfg inst timestep c evs
        (c.withOuter gs'.base gs'.connectionUpdates gs'.inMessages.1) := by
  cases h with
  | transport h =>
    refine ⟨rfl, fun c hbase hupdates hfirst _ => ?_⟩
    rw [← hbase, ← hupdates, ← hfirst]
    rw [← hbase] at h
    exact .transport h
  | worker w h hfree =>
    have hhandled (c : GameServer T G Worker)
        (hupdates : c.connectionUpdates = gs.connectionUpdates)
        (hfirst : c.inMessages.1 = gs.inMessages.1) (base : System T Worker Unit) :
        { evs.foldl GameServer.handle c with base := base } =
          c.withOuter base (evs.foldl GameServer.handle gs).connectionUpdates
            (evs.foldl GameServer.handle gs).inMessages.1 := by
      have hmessages : (evs.foldl GameServer.handle c).inMessages =
          ((evs.foldl GameServer.handle gs).inMessages.1, c.inMessages.2) :=
        Prod.ext (foldl_handle_first evs hfirst) (c.foldl_handle_batch evs)
      rw [GameServer.foldl_handle_eq c, hmessages, GameServer.foldl_handle_eq gs, hupdates]
      rfl
    refine ⟨hhandled gs rfl rfl _, fun c hbase hupdates hfirst hheld => ?_⟩
    rw [← hhandled c hupdates hfirst]
    rw [← hbase] at h ⊢
    refine .worker w h fun hholds => ?_
    rw [hheld] at hholds
    cases hholds
  | loop hidle h => exact (hloop h).elim
  | call hbusy h =>
    refine ⟨rfl, fun c hbase hupdates hfirst _ => ?_⟩
    rw [← hbase] at h hbusy
    simp only [GameServer.called, ← hbase, ← hupdates, ← hfirst]
    exact .call hbusy h
  | run h =>
    refine ⟨rfl, fun c hbase hupdates hfirst _ => ?_⟩
    rw [← hbase, ← hupdates, ← hfirst]
    rw [← hbase] at h
    exact .run h
  | stop h => cases h <;> exact (hn List.mem_cons_self).elim

/-- What the game server does between the swap and the clear of the messages can be done at
once, at the swap. -/
theorem batch_refines (h : (batchServer cfg inst timestep).Reachable σ) :
    ∃ gs, (gameServer cfg inst timestep).Reachable gs ∧ Completes inst σ gs := by
  induction h with
  | init h0 =>
    obtain ⟨t, rfl⟩ := h0
    exact ⟨_, .init ⟨t, rfl⟩, fun _ => rfl, nofun⟩
  | @step σ l σ' hr hs ih =>
    obtain ⟨c, hc, hnone, hsome⟩ := ih
    have hbatch := batch_invariant.reachable hr
    obtain ⟨hn, hs⟩ := hs
    cases hs with
    | @outer gs evs gs' batch h hloop =>
      cases batch with
      | none =>
        obtain rfl := hnone rfl
        exact ⟨gs', hc.step h, fun _ => rfl, nofun⟩
      | some todo =>
        obtain ⟨t, hl⟩ := hbatch (Option.some_ne_none _)
        have hall := hsome todo t rfl hl
        obtain ⟨heq, hstep⟩ := h.outer (fun h => h.not_updating hloop t hl) hn
        have hfinish := hall todo.toList (Finset.nodup_toList _) (Finset.toList_toFinset _)
        refine ⟨_, hc.step (hstep c ?_ ?_ ?_ ?_), nofun, fun todo' t' he hl' order ho htodo => ?_⟩
        · rw [hfinish, GameServer.finishBatch, GameServer.foldl_updateGame_eq]
        · rw [hfinish, GameServer.finishBatch, GameServer.foldl_updateGame_eq]
        · rw [hfinish, GameServer.finishBatch, GameServer.foldl_updateGame_eq]
        · rw [hfinish]
          rfl
        · cases he
          have ht : t' = t := GamePc.updating.inj (hl'.symm.trans (hloop t hl))
          rw [hall order ho htodo, ← GameServer.finishBatch_withOuter, ← heq, ht]
    | @swapMessages gs t hl hidle =>
      obtain rfl := hnone rfl
      have hstep : GameStep cfg inst timestep c [] (c.swapMessages.finishBatch inst t
          c.games.keys.toList) :=
        .loop hidle (.updateGames _ hl (Finset.nodup_toList _) (Finset.toList_toFinset _))
      refine ⟨_, hc.step hstep, nofun, fun todo t' he hl' order ho htodo => ?_⟩
      cases he
      have ht : t' = t := GamePc.updating.inj (hl'.symm.trans hl)
      rw [ht]
      apply GameServer.finishBatch_perm _ t
      exact List.perm_of_nodup_nodup_toFinset_eq (Finset.nodup_toList _) ho
        ((Finset.toList_toFinset _).trans htodo.symm)
    | @updateGame todo g gs t a hl hm hg =>
      refine ⟨c, hc, nofun, fun todo' t' he hl' order ho htodo => ?_⟩
      cases he
      rw [GameServer.updateGame_eq] at hl'
      have ht : t' = t := GamePc.updating.inj (hl'.symm.trans hl)
      have hcons : (a :: order).Nodup := List.nodup_cons.2 ⟨fun hmem => ?_, ho⟩
      · have hset : (a :: order).toFinset = todo := by
          rw [List.toFinset_cons, htodo, Finset.insert_erase hm]
        rw [hsome todo t rfl hl (a :: order) hcons hset, ht]
        rfl
      · rw [← List.mem_toFinset, htodo] at hmem
        exact Finset.notMem_erase _ _ hmem
    | @clearMessages gs t hl =>
      refine ⟨c, hc, fun _ => ?_, nofun⟩
      exact hsome ∅ t rfl hl [] .nil rfl

end Refinement

end WebGameServer
