import WebGameServer.Library.Groups
import WebGameServer.MatchmakingServer.Agreement

namespace WebGameServer
set_option autoImplicit true

section Ticks

variable {T : Traits} {D Worker : Type}

/-- The steps of `match_players` between any calls of the handlers and any steps inside the base
server. -/
inductive TickStep (cfg : Config T) (mm : Matchmaker T D) (timestep : Int) :
    MatchmakingServer T D Worker → List (Event T) → MatchmakingServer T D Worker → Prop where
  | outside (b : System T Worker Unit) (updates : List (ConnectionUpdate T)) :
      TickStep cfg mm timestep ms []
        { ms with
          base := b
          connectionUpdates := (ms.connectionUpdates.1 ++ updates, ms.connectionUpdates.2) }
  | loop (h : MatchStep cfg mm timestep ms evs ms') : TickStep cfg mm timestep ms evs ms'

/-- The runs of `match_players` without `stop`. -/
def matchTicks (cfg : Config T) (mm : Matchmaker T D) (timestep : Int) :
    LTS (MatchmakingServer T D Worker) (List (Event T)) where
  init ms := ∃ lastUpdate, ms = .start lastUpdate
  step := TickStep cfg mm timestep

/-- What an observer of the ticks notes. -/
inductive TickNote (T : Traits) where
  -- `process_connection_updates` is given the list.
  | began (given : List T.SessionId)
  -- It has processed a connect.
  | connected (join : Join T.SessionId T.PlayerId)
  -- It completes the session.
  | completed (sid : T.SessionId)

def TickNote.join : TickNote T → Option (Join T.SessionId T.PlayerId)
  | .connected j => some j
  | _ => none

def TickNote.completion : TickNote T → Option T.SessionId
  | .completed sid => some sid
  | _ => none

def Event.completion : Event T → Option (TickNote T)
  | .completing sid _ => some (.completed sid)
  | _ => none

namespace MatchmakingServer

/-- The updates that the step takes from the list of `process_connection_updates`. -/
def taken (ms ms' : MatchmakingServer T D Worker) : List (ConnectionUpdate T) :=
  ms.loop.todo.take (ms.loop.todo.length - ms'.loop.todo.length)

/-- A connect creates the entry of its session if there was none before the step. -/
def noteUpdate (ms ms' : MatchmakingServer T D Worker) :
    ConnectionUpdate T → Option (TickNote T)
  | .connection cid _ =>
    some (.connected ⟨cid.session, cid.player, (ms.sessionPlayers.lookup cid.session).isNone &&
      (ms'.sessionPlayers.lookup cid.session).isSome⟩)
  | .disconnection _ => none

def tickNotes (ms : MatchmakingServer T D Worker) (evs : List (Event T))
    (ms' : MatchmakingServer T D Worker) : List (TickNote T) :=
  if ms.loop.processing then
    (ms.taken ms').filterMap (ms.noteUpdate ms') ++ evs.filterMap Event.completion
  else if ms'.loop.processing then [.began ms.finishedSessions.2]
  else []

/-- The observer notes the calls of `process_connection_updates`, the connects it processes and
the sessions it completes. -/
def NotesTicks (ms : MatchmakingServer T D Worker) (evs : List (Event T))
    (ms' : MatchmakingServer T D Worker) (notes : List (TickNote T)) : Prop :=
  notes = ms.tickNotes evs ms'

/-- The list that `process_connection_updates` was given, with the session in its call of
`complete_session`, which it appends next. -/
def collected (ms : MatchmakingServer T D Worker) : List T.SessionId :=
  ms.finishedSessions.2 ++ ms.loop.ended.toList

/-- The sessions that `process_connection_updates` has completed since its last call are appended
to the list that it was given. -/
def Appended (ms : MatchmakingServer T D Worker) (notes : List (TickNote T)) : Prop :=
  ms.loop.beforeErasure = true → ∃ before given after,
    notes = before ++ .began given :: after ∧ (∀ g, .began g ∉ after) ∧
      ms.collected = given ++ after.filterMap TickNote.completion

/-- The two tables have the same keys and the sets that the notes say, and the completed sessions
are appended. -/
structure InStep (ms : MatchmakingServer T D Worker) (notes : List (TickNote T)) : Prop where
  keys : ms.sessionData.keys = ms.sessionPlayers.keys
  nonempty : ∀ sid players, ms.sessionPlayers.lookup sid = some players → players.Nonempty
  -- `m_session_players.at` finds the session.
  known : ∀ t cid data todo d, ms.loop = .connecting t (.connection cid data :: todo) →
    ms.sessionData.lookup cid.session = some d →
      ∃ players, ms.sessionPlayers.lookup cid.session = some players
  joined : ∀ sid players, ms.sessionPlayers.lookup sid = some players →
    JoinedSince (notes.filterMap TickNote.join) sid players
  appended : ms.Appended notes

end MatchmakingServer

end Ticks

section Steps

variable {T : Traits} {D Worker : Type} {cfg : Config T} {mm : Matchmaker T D}
  {timestep : Int} {ms ms' : MatchmakingServer T D Worker} {evs : List (Event T)}

open MatchmakingServer

theorem MatchPc.processing_of_not_beforeErasure {pc : MatchPc T} (h : pc.beforeErasure = false) :
    pc.processing = false := by
  cases pc <;> first | rfl | cases h

theorem tickNotes_outside (hp : ms.loop.processing = false) (hp' : ms'.loop.processing = false) :
    ms.tickNotes evs ms' = [] := by
  simp only [tickNotes, hp, hp', Bool.false_eq_true, ↓reduceIte]

theorem tickNotes_take (hl : ms.loop = .connecting t (u :: todo)) (ht : ms'.loop.todo = todo) :
    ms.tickNotes evs ms' =
      (ms.noteUpdate ms' u).toList ++ evs.filterMap Event.completion := by
  have htaken : ms.taken ms' = [u] := by
    rw [taken, hl, ht, MatchPc.todo, List.length_cons, Nat.add_sub_cancel_left, List.take_one]
    rfl
  simp only [tickNotes, hl, MatchPc.processing, ↓reduceIte]
  rw [htaken, List.filterMap_cons]
  cases ms.noteUpdate ms' u <;> rfl

theorem tickNotes_keep (hp : ms.loop.processing = true) (ht : ms'.loop.todo = ms.loop.todo) :
    ms.tickNotes [] ms' = [] := by
  simp only [tickNotes, hp, taken, ht, Nat.sub_self, List.take_zero, List.filterMap_nil,
    List.append_nil, ↓reduceIte]

theorem tickNotes_same (hl : ms'.loop = ms.loop) : ms.tickNotes [] ms' = [] := by
  cases hp : ms.loop.processing with
  | true => exact tickNotes_keep hp (by rw [hl])
  | false => exact tickNotes_outside hp (hl ▸ hp)

/-- The step is taken while the sessions are collected, if it does not end this, and adds the
sessions. -/
def Collects (ms ms' : MatchmakingServer T D Worker) (sids : List T.SessionId) : Prop :=
  ms'.loop.beforeErasure = true →
    ms.loop.beforeErasure = true ∧ ms'.collected = ms.collected ++ sids

/-- What a step does to the two tables and to the collected sessions, with the notes of it. -/
inductive TableStep (ms ms' : MatchmakingServer T D Worker) : List (TickNote T) → Prop where
  | quiet : ms'.sessionData = ms.sessionData → ms'.sessionPlayers = ms.sessionPlayers →
      Collects ms ms' [] → TableStep ms ms' []
  | began : ms'.sessionData = ms.sessionData → ms'.sessionPlayers = ms.sessionPlayers →
      ms'.collected = ms.finishedSessions.2 → TableStep ms ms' [.began ms.finishedSessions.2]
  | cancel (sid : T.SessionId) : ms'.sessionData = ms.sessionData →
      ms'.sessionPlayers = ms.sessionPlayers → Collects ms ms' [sid] →
      TableStep ms ms' [.completed sid]
  | reject (cid : CombinedId T) : ms.sessionPlayers.lookup cid.session = none →
      ms'.sessionData = ms.sessionData → ms'.sessionPlayers = ms.sessionPlayers →
      Collects ms ms' [cid.session] →
      TableStep ms ms' [.connected ⟨cid.session, cid.player, false⟩, .completed cid.session]
  | create (cid : CombinedId T) (d : D) : ms'.sessionData = ms.sessionData.insert cid.session d →
      ms'.sessionPlayers = ms.sessionPlayers.insert cid.session {cid.player} →
      Collects ms ms' [] → TableStep ms ms' [.connected ⟨cid.session, cid.player, true⟩]
  | insert (cid : CombinedId T) (players : Finset T.PlayerId) :
      ms.sessionPlayers.lookup cid.session = some players →
      ms'.sessionData = ms.sessionData →
      ms'.sessionPlayers =
        ms.sessionPlayers.insert cid.session (insert cid.player players) →
      Collects ms ms' [] → TableStep ms ms' [.connected ⟨cid.session, cid.player, false⟩]
  | erase (sids : List T.SessionId) :
      (∀ sid, ms'.sessionData.lookup sid =
        if sid ∈ sids then none else ms.sessionData.lookup sid) →
      (∀ sid, ms'.sessionPlayers.lookup sid =
        if sid ∈ sids then none else ms.sessionPlayers.lookup sid) →
      Collects ms ms' [] → TableStep ms ms' []

theorem Collects.of_eq (hb : ms'.loop.beforeErasure = ms.loop.beforeErasure)
    (hf : ms'.finishedSessions.2 = ms.finishedSessions.2) (he : ms'.loop.ended = ms.loop.ended) :
    Collects ms ms' [] := by
  intro h
  rw [collected, collected, hf, he, List.append_nil]
  exact ⟨hb ▸ h, rfl⟩

theorem Collects.push (hb : ms.loop.beforeErasure = true) (hl : ms.loop.ended = some sid)
    (he : ms'.loop.ended = none)
    (hf : ms'.finishedSessions.2 = ms.finishedSessions.2 ++ [sid]) : Collects ms ms' [] := by
  intro _
  rw [collected, collected, hf, hl, he, List.append_nil]
  exact ⟨hb, List.append_nil _⟩

theorem Collects.call (hb : ms.loop.beforeErasure = true) (hl : ms.loop.ended = none)
    (he : ms'.loop.ended = some sid) (hf : ms'.finishedSessions.2 = ms.finishedSessions.2) :
    Collects ms ms' [sid] := by
  intro _
  rw [collected, collected, hf, hl, he]
  exact ⟨hb, by rw [Option.toList_none, List.append_nil]; rfl⟩

theorem TableStep.outside (hp : ms.loop.processing = false) (hb : ms'.loop.beforeErasure = false)
    (hd : ms'.sessionData = ms.sessionData) (hs : ms'.sessionPlayers = ms.sessionPlayers) :
    TableStep ms ms' (ms.tickNotes evs ms') := by
  rw [tickNotes_outside hp (MatchPc.processing_of_not_beforeErasure hb)]
  apply TableStep.quiet hd hs
  intro hb'
  cases hb.symm.trans hb'

theorem MatchStep.tables (h : MatchStep cfg mm timestep ms evs ms')
    (hk : ms.sessionData.keys = ms.sessionPlayers.keys) :
    TableStep ms ms' (ms.tickNotes evs ms') := by
  cases h with
  | enter hl hr | exit hl hr | canMatch hl | cannotMatch hl | wait hl hu | pass hl hu
  | wakeStopped hl hr | wake hl hr hu | recheck hl hr hu | relock hl | sleep t hl ht
  | matchSessions games msgs hl hm | broadcast hl | sendMessage pid hl hm hi hc
  | sendIgnored pid hl hm hi hc | sent hl | broadcastDone hl | takeGame hl | endSession hl hc
  | pushFinished hl | gameDone hl | finish hl =>
    exact .outside (by rw [hl]; rfl) rfl rfl rfl
  | swapUpdates t hl ht =>
    have hnotes : ms.tickNotes [] { ms.swapUpdates with
        loop := .connecting t ms.connectionUpdates.1 } = [.began ms.finishedSessions.2] := by
      simp only [tickNotes, hl, MatchPc.processing, Bool.false_eq_true, ↓reduceIte]
    rw [hnotes]
    exact .began rfl rfl (List.append_nil _)
  | cancelSession hl hd hc =>
    rw [tickNotes_take hl rfl]
    exact .cancel _ rfl rfl (.call (by rw [hl]; rfl) (by rw [hl]; rfl) rfl rfl)
  | @eraseCancelled _ sid t todo hl =>
    rw [tickNotes_keep (by rw [hl]; rfl) (by rw [hl]; rfl)]
    apply TableStep.erase [sid]
    · intro sid'
      simp only [eraseSession, Map.lookup_erase_ite, List.mem_singleton]
    · intro sid'
      simp only [eraseSession, Map.lookup_erase_ite, List.mem_singleton]
    · exact .push (by rw [hl]; rfl) (by rw [hl]; rfl) rfl rfl
  | disconnectIgnored hl hd =>
    rw [tickNotes_take hl rfl]
    exact .quiet rfl rfl (.of_eq (by rw [hl]; rfl) rfl (by rw [hl]; rfl))
  | @insertPlayer d _ cid t todo data hl hd =>
    obtain ⟨players, hs⟩ := Map.lookup_of_keys_eq hk hd
    rw [tickNotes_take hl rfl]
    simp only [noteUpdate, hs, Option.isNone_some, Bool.false_and]
    apply TableStep.insert cid players hs
    · rfl
    · simp only [MatchmakingServer.insertPlayer, hs, Option.getD_some]
    · exact .of_eq (by rw [hl]; rfl) rfl (by rw [hl]; rfl)
  | @createSession data _ cid t todo hl hd hv =>
    have hs := Map.lookup_none_of_keys_eq hk hd
    rw [tickNotes_take hl rfl]
    simp only [noteUpdate, MatchmakingServer.createSession, hs, Option.isNone_none,
      Map.emplace_absent _ hs, Finmap.lookup_insert, Option.isSome_some, Bool.and_self]
    apply TableStep.create cid (mm.construct data)
    · exact Map.emplace_absent _ hd
    · rfl
    · exact .of_eq (by rw [hl]; rfl) rfl (by rw [hl]; rfl)
  | rejectData hl hd hv hc =>
    have hs := Map.lookup_none_of_keys_eq hk hd
    rw [tickNotes_take hl rfl]
    simp only [noteUpdate, called, hs, Option.isNone_none, Option.isSome_none, Bool.and_false]
    exact .reject _ hs rfl rfl (.call (by rw [hl]; rfl) (by rw [hl]; rfl) rfl rfl)
  | pushRejected hl =>
    rw [tickNotes_keep (by rw [hl]; rfl) (by rw [hl]; rfl)]
    exact .quiet rfl rfl (.push (by rw [hl]; rfl) (by rw [hl]; rfl) rfl rfl)
  | clearUpdates hl =>
    rw [tickNotes_keep (by rw [hl]; rfl) (by rw [hl]; rfl)]
    exact .quiet rfl rfl (.of_eq (by rw [hl]; rfl) rfl (by rw [hl]; rfl))
  | eraseFinished hl =>
    rw [tickNotes_outside (by rw [hl]; rfl) rfl]
    apply TableStep.erase ms.finishedSessions.1
    · exact ms.lookup_foldl_eraseSession ms.finishedSessions.1
    · exact ms.lookup_players_foldl_eraseSession ms.finishedSessions.1
    · exact Bool.noConfusion

theorem TickStep.tables (h : TickStep cfg mm timestep ms evs ms')
    (hk : ms.sessionData.keys = ms.sessionPlayers.keys) :
    TableStep ms ms' (ms.tickNotes evs ms') := by
  cases h with
  | outside b updates =>
    have hnotes : ms.tickNotes [] { ms with
        base := b
        connectionUpdates := (ms.connectionUpdates.1 ++ updates, ms.connectionUpdates.2) } = [] :=
      tickNotes_same rfl
    rw [hnotes]
    exact .quiet rfl rfl (.of_eq rfl rfl rfl)
  | loop h => exact h.tables hk

theorem TableStep.keys_eq (h : TableStep ms ms' notes)
    (hk : ms.sessionData.keys = ms.sessionPlayers.keys) :
    ms'.sessionData.keys = ms'.sessionPlayers.keys := by
  cases h with
  | quiet hd hs | began hd hs | cancel sid hd hs | reject cid hl hd hs =>
    rw [hd, hs]
    exact hk
  | create cid d hd hs => rw [hd, hs, Map.keys_insert, Map.keys_insert, hk]
  | insert cid players hl hd hs =>
    have hm := (Map.mem_keys_iff ms.sessionPlayers).2 ⟨players, hl⟩
    rw [hd, hs, Map.keys_insert_present _ hm, hk]
  | erase sids hd hs =>
    ext sid
    have hsid : sid ∈ ms.sessionData.keys ↔ sid ∈ ms.sessionPlayers.keys := by rw [hk]
    rw [Map.mem_keys_iff, Map.mem_keys_iff] at hsid ⊢
    rw [hd, hs]
    split
    · simp only [reduceCtorEq, exists_false]
    · exact hsid

theorem TableStep.enrolled {log : List (Join T.SessionId T.PlayerId)}
    (h : TableStep ms ms' notes) (he : Enrolled log ms.sessionPlayers) :
    Enrolled (log ++ notes.filterMap TickNote.join) ms'.sessionPlayers := by
  cases h with
  | quiet hd hs | began hd hs | cancel sid hd hs =>
    rw [hs]
    exact (List.append_nil log).symm ▸ he
  | reject cid hl hd hs =>
    rw [hs]
    exact he.refuse hl cid.player
  | create cid d hd hs =>
    rw [hs]
    exact he.create cid.session cid.player
  | insert cid players hl hd hs =>
    rw [hs]
    exact he.join hl cid.player
  | erase sids hd hs =>
    rw [List.filterMap_nil, List.append_nil]
    apply he.shrink
    intro sid players hl
    rw [hs] at hl
    split at hl
    · cases hl
    · exact hl

theorem MatchmakingServer.Appended.collect {notes tr : List (TickNote T)} (h : Appended ms tr)
    (hc : Collects ms ms' (notes.filterMap TickNote.completion)) (hb : ∀ g, .began g ∉ notes) :
    Appended ms' (tr ++ notes) := by
  intro hb'
  obtain ⟨hbefore, hcollected⟩ := hc hb'
  obtain ⟨before, given, after, rfl, hlast, he⟩ := h hbefore
  refine ⟨before, given, after ++ notes, ?_, ?_, ?_⟩
  · rw [List.append_assoc, List.cons_append]
  · intro g hg
    rcases List.mem_append.1 hg with hg | hg
    · exact hlast g hg
    · exact hb g hg
  · rw [hcollected, he, List.filterMap_append, List.append_assoc]

theorem TableStep.appended {tr : List (TickNote T)} (h : TableStep ms ms' notes)
    (ha : Appended ms tr) : Appended ms' (tr ++ notes) := by
  cases h with
  | quiet hd hs hc | erase sids hd hs hc => exact ha.collect hc (fun g => List.not_mem_nil)
  | began hd hs hc =>
    intro _
    exact ⟨tr, ms.finishedSessions.2, [], rfl, fun g => List.not_mem_nil,
      hc.trans (List.append_nil _).symm⟩
  | cancel sid hd hs hc | reject cid hl hd hs hc | create cid d hd hs hc
  | insert cid players hl hd hs hc =>
    apply ha.collect hc
    intro g hg
    simp only [List.mem_cons, List.not_mem_nil, reduceCtorEq, or_self] at hg

end Steps

section Runs

variable {T : Traits} {D Worker : Type} {cfg : Config T} {mm : Matchmaker T D}
  {timestep : Int} {ms : MatchmakingServer T D Worker} {notes : List (TickNote T)}

open MatchmakingServer

theorem keys_eq_invariant : (matchTicks cfg mm timestep).Invariant
    fun ms : MatchmakingServer T D Worker => ms.sessionData.keys = ms.sessionPlayers.keys where
  init := by
    intro ms hinit
    obtain ⟨t, rfl⟩ := hinit
    rfl
  step _ hk h := (h.tables hk).keys_eq hk

theorem enrolled_traced (h : (matchTicks cfg mm timestep).Traced NotesTicks notes ms) :
    Enrolled (notes.filterMap TickNote.join) ms.sessionPlayers := by
  apply h.invariant (J := fun notes (ms : MatchmakingServer T D Worker) =>
    Enrolled (notes.filterMap TickNote.join) ms.sessionPlayers)
  · intro ms hinit
    obtain ⟨t, rfl⟩ := hinit
    exact .empty
  · rintro tr ms evs ms' ns hr he hs rfl
    rw [List.filterMap_append]
    exact (hs.tables (keys_eq_invariant.reachable hr)).enrolled he

theorem appended_traced (h : (matchTicks cfg mm timestep).Traced NotesTicks notes ms) :
    Appended ms notes := by
  apply h.invariant (J := fun notes (ms : MatchmakingServer T D Worker) => Appended ms notes)
  · intro ms hinit hb
    obtain ⟨t, rfl⟩ := hinit
    cases hb
  · rintro tr ms evs ms' ns hr ha hs rfl
    exact (hs.tables (keys_eq_invariant.reachable hr)).appended ha

/-- In every run of `match_players` without `stop`, with any batches of connection updates and
any matchmaker, the tables have the same keys and sets of players that are not empty, which are
those whose connects were processed since the entry was created, and the completed sessions are
appended to the list that `process_connection_updates` is given. -/
theorem tables_in_step (h : (matchTicks cfg mm timestep).Traced NotesTicks notes ms) :
    ms.InStep notes := by
  have hkeys := keys_eq_invariant.reachable h.reachable
  have hjoined := enrolled_traced h
  constructor
  · exact hkeys
  · intro sid players hl
    exact (hjoined sid players hl).nonempty
  · intro t cid data todo d _ hd
    exact Map.lookup_of_keys_eq hkeys hd
  · exact hjoined
  · exact appended_traced h

/-- In one batch Ada connects to session 7 and leaves, and Bob connects to it. -/
theorem tables_in_step_bob :
    ∃ (notes : List (TickNote natTraits)) (ms : MatchmakingServer natTraits Nat Unit),
      (matchTicks natConfig natMatchmaker 0).Traced NotesTicks notes ms ∧
        ms.sessionPlayers.lookup (7 : Nat) = some {(2 : Nat)} ∧ ms.collected = [(7 : Nat)] ∧
        ms.InStep notes := by
  have h0 : (matchTicks natConfig natMatchmaker 0).Traced NotesTicks []
      (MatchmakingServer.start 0 : MatchmakingServer natTraits Nat Unit) := .init ⟨0, rfl⟩
  have h1 := h0.step
    (TickStep.outside (T := natTraits)
      { System.start 0 with server := { (System.start 0).server with isRunning := true } }
      [.connection ⟨(1 : Nat), (7 : Nat)⟩ (0 : Nat), .disconnection ⟨(1 : Nat), (7 : Nat)⟩,
        .connection ⟨(2 : Nat), (7 : Nat)⟩ (0 : Nat)]) rfl
  have h2 := h1.step (.loop (.enter rfl rfl)) rfl
  have h3 := h2.step (.loop (.canMatch rfl)) rfl
  have h4 := h3.step (.loop (.swapUpdates 0 rfl (by decide))) rfl
  have h5 := h4.step (.loop (.createSession rfl rfl rfl)) rfl
  have h6 := h5.step
    (.loop (.cancelSession rfl rfl (.completeSession ⟨0, 0⟩ _ _ rfl rfl))) rfl
  have h7 := h6.step (.loop (.eraseCancelled rfl)) rfl
  have h8 := h7.step (.loop (.createSession rfl rfl rfl)) rfl
  exact ⟨_, _, h8, rfl, rfl, tables_in_step h8⟩

theorem matchTicks_traced (h : (matchTicks cfg mm timestep).Reachable ms) :
    ∃ notes, (matchTicks cfg mm timestep).Traced NotesTicks notes ms := by
  apply h.traced
  intro ms evs ms' _
  exact ⟨_, rfl⟩

/-- The runs of the matchmaking server without `stop` are runs of `match_players`. -/
theorem matchmakingServer_ticks [DecidableEq Worker]
    (h : ((matchmakingServer cfg mm timestep).restrict
      fun _ evs _ => .stopping ∉ evs).Reachable ms) :
    (matchTicks cfg mm timestep).Reachable ms := by
  induction h with
  | init h0 => exact .init h0
  | @step ms evs ms' hr hs ih =>
    obtain ⟨hs, hn⟩ := hs
    have outside (b : System T Worker Unit) (updates : List (ConnectionUpdate T)) :=
      ih.step (.outside b updates)
    have still (b : System T Worker Unit) : (matchTicks cfg mm timestep).Reachable
        { ms with base := b } := by
      have ho := outside b []
      rw [List.append_nil] at ho
      exact ho
    cases hs with
    | transport h => exact still _
    | worker w h hfree => exact outside _ _
    | loop hidle h => exact ih.step (.loop h)
    | call hbusy h => exact still _
    | run h => exact still _
    | stop h => cases h <;> exact (hn List.mem_cons_self).elim

end Runs

end WebGameServer
