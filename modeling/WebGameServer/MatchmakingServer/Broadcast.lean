import WebGameServer.MatchmakingServer.Agreement
import WebGameServer.Notifications

namespace WebGameServer
set_option autoImplicit true

/-- What an observer notes of the loop over the players of the session of a message: the players
for which `send_message` was called, those of them that it found connected, with their handles,
and the messages that were queued since. -/
structure Broadcast (T : Traits) where
  session : T.SessionId
  text : String
  players : Finset T.PlayerId
  called : List T.PlayerId
  connected : List (T.PlayerId × T.Hdl)
  queued : List (Action T)

section Notes

variable {T : Traits}

/-- The client for which `send_message` is called. -/
def Event.recipient : Event T → Option (CombinedId T)
  | .sending cid _ => some cid
  | _ => none

/-- The action that `send_message` pushes for a connected player. -/
def Broadcast.outMessage (b : Broadcast T) (text : String) (p : T.PlayerId × T.Hdl) :
    Action T where
  type := .outMessage
  hdl := p.2
  msg := text
  owner := some ⟨p.1, b.session⟩

/-- `send_message` was called once for each player, and each one that is connected gets the text
that `match` returned. -/
def Broadcast.Unchanged (b : Broadcast T) : Prop :=
  b.called.Nodup ∧ b.called.toFinset = b.players ∧
    b.queued = b.connected.map (b.outMessage b.text)

/-- What the loop queues: the first connected player takes the text and leaves an empty one. -/
def Broadcast.sends (b : Broadcast T) : List (T.PlayerId × T.Hdl) → List (Action T)
  | [] => []
  | p :: ps => b.outMessage b.text p :: ps.map (b.outMessage "")

def newMessages {Thread : Type} (s s' : Server T Thread) : List (Action T) :=
  (s'.actions.drop s.actions.length).filter fun a => a.type = .outMessage

def Broadcast.observe {Thread : Type} (b : Broadcast T) (s s' : Server T Thread)
    (evs : List (Event T)) : Broadcast T :=
  { b with
    called := b.called ++ (evs.filterMap Event.recipient).map CombinedId.player
    connected := b.connected ++ (evs.filterMap Event.recipient).filterMap fun cid =>
      (s.idConnections.lookup cid).map (cid.player, ·)
    queued := b.queued ++ newMessages s s' }

/-- The message that the caller is about to push. -/
def CallerPc.unqueued : CallerPc T → List (Action T)
  | .sending cid hdl msg =>
    [{ type := .outMessage, hdl := hdl, msg := msg, owner := some cid }]
  | _ => []

/-- Not in `complete_session`. -/
def CallerPc.sendsOnly : CallerPc T → Bool
  | .idle | .sending _ _ _ => true
  | _ => false

end Notes

/-- The matchmaking server with the notes on the message that it broadcasts. -/
structure BroadcastServer (T : Traits) (D Worker : Type) where
  server : MatchmakingServer T D Worker
  note : Option (Broadcast T)

section Server

variable {T : Traits} {D Worker : Type}

/-- The notes after a step. They begin anew when a message comes up. -/
def MatchmakingServer.noted (ms : MatchmakingServer T D Worker) (evs : List (Event T))
    (ms' : MatchmakingServer T D Worker) (b : Option (Broadcast T)) : Option (Broadcast T) :=
  match ms.loop with
  | .broadcasting ((sid, text) :: _) _ =>
    some ⟨sid, text, (ms.sessionPlayers.lookup sid).getD ∅, [], [], []⟩
  | _ => b.map fun b => b.observe ms.base.server ms'.base.server evs

variable [DecidableEq Worker]

/-- The notes depend on the steps and not the other way round. -/
def broadcastServer (cfg : Config T) (mm : Matchmaker T D) (timestep : Int) :
    LTS (BroadcastServer T D Worker) (List (Event T)) where
  init σ := (matchmakingServer cfg mm timestep).init σ.server ∧ σ.note = none
  step σ evs σ' := MatchmakingStep cfg mm timestep σ.server evs σ'.server ∧
    σ'.note = σ.server.noted evs σ'.server σ.note

variable {cfg : Config T} {mm : Matchmaker T D} {timestep : Int}
  {ms ms' : MatchmakingServer T D Worker}

theorem matchmakingServer_noted (h : (matchmakingServer cfg mm timestep).Reachable ms) :
    ∃ σ : BroadcastServer T D Worker, (broadcastServer cfg mm timestep).Reachable σ ∧
      σ.server = ms := by
  refine h.lift (fun h0 => ⟨⟨_, none⟩, ⟨h0, rfl⟩, rfl⟩) fun {σ evs ms'} hs => ?_
  exact ⟨evs, ⟨ms', σ.server.noted evs ms' σ.note⟩, ⟨hs, rfl⟩, rfl⟩

end Server

section Steps

variable {T : Traits} {Thread : Type} {s s' : Server T Thread} {b : Broadcast T}

theorem newMessages_of_le (h : s'.actions.length ≤ s.actions.length) : newMessages s s' = [] := by
  rw [newMessages, List.drop_eq_nil_of_le h, List.filter_nil]

theorem newMessages_push (a : Action T) (ha : a.type ≠ .outMessage) :
    newMessages s (s.push a) = [] := by
  simp only [newMessages, Server.push, List.drop_left, List.filter_cons, ha, decide_false,
    Bool.false_eq_true, ↓reduceIte, List.filter_nil]

theorem newMessages_outMessage (a : Action T) (ha : a.type = .outMessage) :
    newMessages s (s.push a) = [a] := by
  simp only [newMessages, Server.push, List.drop_left, List.filter_cons, ha, decide_true,
    ↓reduceIte, List.filter_nil]

theorem TransportStep.newMessages (h : TransportStep s evs s') : newMessages s s' = [] := by
  cases h with
  | onOpen hdl hr | onMessage hdl msg | onClose hdl =>
    exact newMessages_push _ ActionType.noConfusion
  | onOpenStopped hdl hr => exact newMessages_of_le (Nat.le_refl _)

theorem WorkerStep.newMessages (h : WorkerStep cfg me s pc evs s' pc') :
    newMessages s s' = [] := by
  apply newMessages_of_le
  cases h with
  | pop ha | wakePop hr ha =>
    rw [ha]
    exact Nat.le_succ _
  | disconnectSession hn => rw [s.disconnectSession_actions]
  | lockedSession c hv hn ha => rw [s.updateSessionLocks_actions]
  | openSession c hv hn ha => exact Nat.le_of_eq (congrArg _ s.updateSessionLocks_actions)
  | setupConnectionId => rw [s.setupConnectionId_actions]
  | _ => exact Nat.le_refl _

theorem ControlStep.newMessages (h : ControlStep s pc evs s' pc') : newMessages s s' = [] := by
  apply newMessages_of_le
  rcases h.actions with he | he
  · rw [he]
  · rw [he]
    exact Nat.zero_le _

theorem CallerStep.of_sending {me : Thread} {cid : CombinedId T} {msg : String}
    (h : CallerStep cfg me s .idle [.sending cid msg] s' pc) :
    s' = s ∧ ((∃ hdl, s.idConnections.lookup cid = some hdl ∧ pc = .sending cid hdl msg) ∨
      (s.idConnections.lookup cid = none ∧ pc = .idle)) := by
  cases h with
  | sendMessage _ _ hi => exact ⟨rfl, .inl ⟨_, hi, rfl⟩⟩
  | sendIgnored _ _ hi => exact ⟨rfl, .inr ⟨hi, rfl⟩⟩

theorem Broadcast.observe_nil (b : Broadcast T) :
    b.observe s s' [] = { b with queued := b.queued ++ newMessages s s' } := by
  simp only [observe, List.filterMap_nil, List.map_nil, List.append_nil]

theorem Broadcast.observe_call_connected (b : Broadcast T) {pid : T.PlayerId}
    {sid : T.SessionId} {msg : String}
    (hi : s.idConnections.lookup ⟨pid, sid⟩ = some hdl) :
    b.observe s s [.sending ⟨pid, sid⟩ msg] =
      { b with called := b.called ++ [pid], connected := b.connected ++ [(pid, hdl)] } := by
  simp only [observe, Event.recipient, List.filterMap_cons, List.filterMap_nil, List.map_cons,
    List.map_nil, hi, Option.map_some, newMessages_of_le (Nat.le_refl _), List.append_nil]

theorem Broadcast.observe_call_ignored (b : Broadcast T) {pid : T.PlayerId}
    {sid : T.SessionId} {msg : String} (hi : s.idConnections.lookup ⟨pid, sid⟩ = none) :
    b.observe s s [.sending ⟨pid, sid⟩ msg] = { b with called := b.called ++ [pid] } := by
  simp only [observe, Event.recipient, List.filterMap_cons, List.filterMap_nil, List.map_cons,
    List.map_nil, hi, Option.map_none, newMessages_of_le (Nat.le_refl _), List.append_nil]

theorem Broadcast.observe_outside (b : Broadcast T) (hevs : evs.filterMap Event.recipient = [])
    (hq : newMessages s s' = []) : b.observe s s' evs = b := by
  simp only [observe, hevs, hq, List.map_nil, List.filterMap_nil, List.append_nil]

theorem Broadcast.sends_concat (b : Broadcast T) (l : List (T.PlayerId × T.Hdl))
    (p : T.PlayerId × T.Hdl) :
    b.sends (l ++ [p]) = b.sends l ++ [b.outMessage (if l = [] then b.text else "") p] := by
  cases l with
  | nil => rfl
  | cons a l =>
    simp only [sends, List.cons_append, List.map_append, List.map_cons, List.map_nil,
      reduceCtorEq, ↓reduceIte]

/-- The queue holds the text for everyone exactly if it was moved at most once or is empty. -/
theorem Broadcast.sends_eq_map (b : Broadcast T) (l : List (T.PlayerId × T.Hdl)) :
    b.sends l = l.map (b.outMessage b.text) ↔ l.length ≤ 1 ∨ b.text = "" := by
  cases l with
  | nil => exact ⟨fun _ => .inl (Nat.zero_le _), fun _ => rfl⟩
  | cons p l =>
    cases l with
    | nil => exact ⟨fun _ => .inl (Nat.le_refl _), fun _ => rfl⟩
    | cons q l =>
      constructor
      · intro h
        have hq := (List.cons.inj (List.cons.inj h).2).1
        exact .inr (congrArg Action.msg hq).symm
      · rintro (h | h)
        · simp only [List.length_cons] at h
          omega
        · rw [sends, h]
          rfl

end Steps

/-- How the notes belong to the state of the loop over the players that are left. -/
structure Broadcast.Accounts {T : Traits} {D Worker : Type} (b : Broadcast T)
    (ms : MatchmakingServer T D Worker) (sid : T.SessionId) (text : String)
    (todo : Finset T.PlayerId) : Prop where
  session_eq : b.session = sid
  players_eq : b.players = (ms.sessionPlayers.lookup sid).getD ∅
  nodup : b.called.Nodup
  mem_players : ∀ p, p ∈ b.players ↔ p ∈ b.called ∨ p ∈ todo
  left : ∀ p ∈ todo, p ∉ b.called
  text_eq : text = if b.connected = [] then b.text else ""
  sendsOnly : (ms.base.caller ()).sendsOnly = true
  queued_eq : b.queued ++ (ms.base.caller ()).unqueued = b.sends b.connected

section Run

variable {T : Traits} {D Worker : Type} {cfg : Config T} {mm : Matchmaker T D}
  {timestep : Int} {ms ms' : MatchmakingServer T D Worker} {b : Broadcast T}
  {sid : T.SessionId} {text : String} {todo : Finset T.PlayerId} {evs : List (Event T)}

theorem Broadcast.Accounts.congr (h : b.Accounts ms sid text todo)
    (hp : ms'.sessionPlayers = ms.sessionPlayers) (hc : ms'.base.caller = ms.base.caller) :
    b.Accounts ms' sid text todo :=
  { h with
    players_eq := hp ▸ h.players_eq
    sendsOnly := hc ▸ h.sendsOnly
    queued_eq := hc ▸ h.queued_eq }

/-- A step that neither belongs to the loop nor to its call of `send_message`. -/
theorem Broadcast.Accounts.outside (h : b.Accounts ms sid text todo)
    (hp : ms'.sessionPlayers = ms.sessionPlayers) (hc : ms'.base.caller = ms.base.caller)
    (hevs : evs.filterMap Event.recipient = [])
    (hq : newMessages ms.base.server ms'.base.server = []) :
    (b.observe ms.base.server ms'.base.server evs).Accounts ms' sid text todo := by
  rw [b.observe_outside hevs hq]
  exact h.congr hp hc

/-- The call of `send_message` pushes the action of the player that it has found. -/
theorem Broadcast.Accounts.push {s : Server T (Worker ⊕ Unit)} {pc : CallerPc T}
    (h : b.Accounts ms sid text todo) (hbusy : ms.base.caller () ≠ .idle)
    (hs : CallerStep cfg (.inr ()) ms.base.server (ms.base.caller ()) evs s pc) :
    (b.observe ms.base.server s evs).Accounts (ms.called evs s pc) sid text todo := by
  obtain ⟨hsid, hplayers, hn, hm, hleft, htext, hc, hq⟩ := h
  have hcaller : (ms.called evs s pc).base.caller () = pc := by
    simp only [MatchmakingServer.called, Function.update_self]
  generalize ms.base.caller () = cpc at hs hbusy hc hq
  cases hs with
  | @pushMessage _ cid hdl msg =>
    have hnew := newMessages_outMessage (s := ms.base.server)
      { type := .outMessage, hdl := hdl, msg := msg, owner := some cid } rfl
    rw [b.observe_nil, hnew]
    constructor
    · exact hsid
    · exact hplayers
    · exact hn
    · exact hm
    · exact hleft
    · exact htext
    · rw [hcaller]
      rfl
    · rw [hcaller]
      exact (List.append_nil _).trans hq
  | _ => first | exact (hbusy rfl).elim | cases hc

theorem Broadcast.Accounts.call {s : Server T (Worker ⊕ Unit)} {pc : CallerPc T}
    {pid : T.PlayerId} (h : b.Accounts ms sid text todo) (hidle : ms.base.caller () = .idle)
    (hm : pid ∈ todo)
    (hs : CallerStep cfg (.inr ()) ms.base.server .idle [.sending ⟨pid, sid⟩ text] s pc) :
    (b.observe ms.base.server s [.sending ⟨pid, sid⟩ text]).Accounts
      (ms.called [.sending ⟨pid, sid⟩ text] s pc) sid
      (if ms.base.server.idConnections.lookup ⟨pid, sid⟩ = none then text else "")
      (todo.erase pid) := by
  obtain ⟨hsid, hplayers, hn, hmem, hleft, htext, hc, hq⟩ := h
  rw [hidle] at hq
  have hqueued : b.queued = b.sends b.connected := (List.append_nil _).symm.trans hq
  have hnodup : (b.called ++ [pid]).Nodup := by
    rw [← List.concat_eq_append]
    exact List.Nodup.concat (hleft pid hm) hn
  have hmem' (p : T.PlayerId) : p ∈ b.players ↔ p ∈ b.called ++ [pid] ∨ p ∈ todo.erase pid := by
    rw [hmem, List.mem_append, List.mem_singleton, Finset.mem_erase]
    by_cases hp : p = pid
    · subst hp
      exact ⟨fun _ => .inl (.inr rfl), fun _ => .inr hm⟩
    · simp only [hp, or_false, ne_eq, not_false_eq_true, true_and]
  have hleft' : ∀ p ∈ todo.erase pid, p ∉ b.called ++ [pid] := by
    intro p hp hp'
    obtain ⟨hne, hp⟩ := Finset.mem_erase.1 hp
    rcases List.mem_append.1 hp' with hp' | hp'
    · exact hleft p hp hp'
    · exact hne (List.mem_singleton.1 hp')
  have hcaller : (ms.called [.sending ⟨pid, sid⟩ text] s pc).base.caller () = pc := by
    simp only [MatchmakingServer.called, Function.update_self]
  obtain ⟨rfl, ⟨hdl, hi, rfl⟩ | ⟨hi, rfl⟩⟩ := hs.of_sending
  · rw [b.observe_call_connected hi, if_neg (by rw [hi]; exact Option.some_ne_none hdl)]
    constructor
    · exact hsid
    · exact hplayers
    · exact hnodup
    · exact hmem'
    · exact hleft'
    · rw [if_neg (List.append_ne_nil_of_right_ne_nil _ (List.cons_ne_nil _ _))]
    · rw [hcaller]
      rfl
    · rw [hcaller, htext, ← hsid]
      change b.queued ++ [b.outMessage _ (pid, hdl)] = b.sends (b.connected ++ [(pid, hdl)])
      rw [hqueued, b.sends_concat]
  · rw [b.observe_call_ignored hi, if_pos hi]
    constructor
    · exact hsid
    · exact hplayers
    · exact hnodup
    · exact hmem'
    · exact hleft'
    · exact htext
    · rw [hcaller]
      rfl
    · rw [hcaller]
      exact hq

def Noted (ms : MatchmakingServer T D Worker) (note : Option (Broadcast T)) : Prop :=
  ∀ sid text todo msgs games, ms.loop = .broadcastingTo sid text todo msgs games →
    ∃ b, note = some b ∧ b.Accounts ms sid text todo

theorem MatchmakingServer.noted_broadcastingTo {msgs : List (T.SessionId × String)}
    {games : List (MatchedGame T)} (hl : ms.loop = .broadcastingTo sid text todo msgs games)
    (b : Broadcast T) :
    ms.noted evs ms' (some b) = some (b.observe ms.base.server ms'.base.server evs) := by
  simp only [noted, hl, Option.map_some]

theorem filterMap_recipient {o : Origin} (h : ∀ e ∈ evs, o.shows e = true)
    (ho : o ≠ .caller) : evs.filterMap Event.recipient = [] := by
  apply List.filterMap_eq_nil_iff.2
  intro e he
  cases e with
  | sending cid msg =>
    have hshow := h _ he
    cases o <;> first | exact (ho rfl).elim | cases hshow
  | _ => rfl

theorem Noted.outside {note : Option (Broadcast T)} (h : Noted ms note)
    (hl : ms'.loop = ms.loop) (hp : ms'.sessionPlayers = ms.sessionPlayers)
    (hc : ms'.base.caller = ms.base.caller) (hevs : evs.filterMap Event.recipient = [])
    (hq : newMessages ms.base.server ms'.base.server = []) :
    Noted ms' (ms.noted evs ms' note) := by
  intro sid text todo msgs games hl'
  have hloop := hl.symm.trans hl'
  obtain ⟨b, rfl, hb⟩ := h sid text todo msgs games hloop
  exact ⟨_, MatchmakingServer.noted_broadcastingTo hloop b, hb.outside hp hc hevs hq⟩

theorem MatchStep.noted {note : Option (Broadcast T)} (h : MatchStep cfg mm timestep ms evs ms')
    (hidle : ms.base.caller () = .idle) (hn : Noted ms note) :
    Noted ms' (ms.noted evs ms' note) := by
  intro sid text todo msgs games hl'
  cases h with
  | broadcast hl =>
    cases hl'
    refine ⟨⟨sid, text, (ms.sessionPlayers.lookup sid).getD ∅, [], [], []⟩, ?_, rfl, rfl,
      .nil, fun p => ?_, fun p _ => List.not_mem_nil, rfl, ?_, ?_⟩
    · simp only [MatchmakingServer.noted, hl]
    · exact ⟨.inr, fun h => h.resolve_left List.not_mem_nil⟩
    · exact congrArg CallerPc.sendsOnly hidle
    · exact congrArg CallerPc.unqueued hidle
  | sendMessage pid hl hm hi hc =>
    cases hl'
    obtain ⟨b, rfl, hb⟩ := hn _ _ _ _ _ hl
    have hcall := hb.call hidle hm hc
    rw [hi, if_neg (Option.some_ne_none _)] at hcall
    exact ⟨_, MatchmakingServer.noted_broadcastingTo hl b, hcall.congr rfl rfl⟩
  | sendIgnored pid hl hm hi hc =>
    cases hl'
    obtain ⟨b, rfl, hb⟩ := hn _ _ _ _ _ hl
    have hcall := hb.call hidle hm hc
    rw [hi, if_pos rfl] at hcall
    exact ⟨_, MatchmakingServer.noted_broadcastingTo hl b, hcall.congr rfl rfl⟩
  | _ => cases hl'

theorem MatchStopStep.outside (h : MatchStopStep ms evs ms')
    (hl : ms.loop.holdsSessions = true) :
    ms'.sessionPlayers = ms.sessionPlayers ∧ ms'.base.caller = ms.base.caller ∧
      evs.filterMap Event.recipient = [] ∧ newMessages ms.base.server ms'.base.server = [] := by
  cases h with
  | stop hs hb hc | clearAll hs hb hc | notifyAll hs hb hc =>
    exact ⟨rfl, rfl, rfl, hc.newMessages⟩
  | clearSessions hs hf => cases hf.symm.trans hl
  | clearUpdates hs hf | notify hs =>
    exact ⟨rfl, rfl, rfl, newMessages_of_le (Nat.le_refl _)⟩

variable [DecidableEq Worker]

theorem MatchmakingStep.noted {note : Option (Broadcast T)}
    (h : MatchmakingStep cfg mm timestep ms evs ms') (hn : Noted ms note) :
    Noted ms' (ms.noted evs ms' note) := by
  cases h with
  | transport h =>
    exact hn.outside rfl rfl rfl (filterMap_recipient h.shows Origin.noConfusion) h.newMessages
  | worker w h hfree =>
    exact hn.outside rfl rfl rfl (filterMap_recipient h.shows Origin.noConfusion) h.newMessages
  | loop hidle h => exact h.noted hidle hn
  | call hbusy h =>
    intro sid text todo msgs games hl
    have hloop : ms.loop = .broadcastingTo sid text todo msgs games := hl
    obtain ⟨b, rfl, hb⟩ := hn sid text todo msgs games hloop
    exact ⟨_, MatchmakingServer.noted_broadcastingTo hloop b, hb.push hbusy h⟩
  | run h => exact hn.outside rfl rfl rfl rfl h.newMessages
  | stop h =>
    intro sid text todo msgs games hl'
    have hloop : ms'.loop = ms.loop := by cases h <;> rfl
    have hholds := congrArg MatchPc.holdsSessions (hloop.symm.trans hl')
    obtain ⟨hp, hc, hevs, hq⟩ := h.outside hholds
    exact hn.outside hloop hp hc hevs hq sid text todo msgs games hl'

theorem noted_invariant : (broadcastServer cfg mm timestep).Invariant
    fun σ : BroadcastServer T D Worker => Noted σ.server σ.note where
  init := by
    rintro σ ⟨⟨t, he⟩, -⟩ sid text todo msgs games hl
    rw [he] at hl
    cases hl
  step {σ evs σ'} _ hn h := by
    rw [h.2]
    exact h.1.noted hn

/-- At the end of the loop over the players of the session of a message: `send_message` was
called once for every player. Every connected one is sent the text exactly if at most one was
connected or the text is empty. -/
theorem broadcast_unchanged_iff {σ : BroadcastServer T D Worker}
    (h : (broadcastServer cfg mm timestep).Reachable σ)
    (hl : σ.server.loop = .broadcastingTo sid text ∅ msgs games)
    (hidle : σ.server.base.caller () = .idle) :
    ∃ b, σ.note = some b ∧ b.session = sid ∧
      b.players = (σ.server.sessionPlayers.lookup sid).getD ∅ ∧
      b.called.Nodup ∧ b.called.toFinset = b.players ∧
      (b.Unchanged ↔ b.connected.length ≤ 1 ∨ b.text = "") := by
  obtain ⟨b, hb, hsid, hplayers, hn, hmem, -, -, -, hq⟩ :=
    noted_invariant.reachable h sid text ∅ msgs games hl
  have hcalled : b.called.toFinset = b.players := by
    ext p
    rw [List.mem_toFinset, hmem p]
    exact ⟨.inl, fun h => h.resolve_right (Finset.notMem_empty p)⟩
  have hqueued : b.queued = b.sends b.connected := by
    rw [hidle] at hq
    exact (List.append_nil _).symm.trans hq
  refine ⟨b, hb, hsid, hplayers, hn, hcalled, ?_⟩
  rw [← b.sends_eq_map, ← hqueued]
  exact ⟨fun h => h.2.2, fun h => ⟨hn, hcalled, h⟩⟩

theorem noted_step {cfg : Config T} {mm : Matchmaker T D} {timestep : Int}
    {ms ms' : MatchmakingServer T D Worker} {note : Option (Broadcast T)}
    (h : (broadcastServer cfg mm timestep).Reachable ⟨ms, note⟩)
    (hs : MatchmakingStep cfg mm timestep ms evs ms') :
    (broadcastServer cfg mm timestep).Reachable ⟨ms', ms.noted evs ms' note⟩ :=
  h.step ⟨hs, rfl⟩

end Run

/-- Ada and Bob are connected to session 7 and `match` returns a message for it. -/
theorem two_players_broadcast (text : String) :
    ∃ σ : BroadcastServer natTraits Nat Unit,
      (broadcastServer natConfig natMatchmaker 0).Reachable σ ∧
      σ.server.loop = .broadcastingTo (7 : Nat) "" ∅ [] [] ∧
      σ.server.base.caller () = .idle ∧
      ∃ b : Broadcast natTraits, σ.note = some b ∧ b.text = text ∧
        b.connected = [((1 : Nat), (5 : Nat)), ((2 : Nat), (6 : Nat))] ∧
        b.queued.map Action.msg = [text, ""] := by
  have h0 : (matchmakingServer natConfig natMatchmaker 0).Reachable
      (MatchmakingServer.start 0 : MatchmakingServer natTraits Nat Unit) := .init ⟨0, rfl⟩
  have h1 := h0.step (.run (.run rfl))
  have h2 := h1.step (.transport (.onMessage (5 : Nat) "ada"))
  have h3 := h2.step (.transport (.onMessage (6 : Nat) "bob"))
  have h4 := h3.step (.worker () (.enter rfl) nofun)
  have h5 := h4.step (.worker () (.pop rfl) nofun)
  have h6 := h5.step (.worker () (.messageUnbound rfl rfl) nofun)
  have h7 := h6.step (.worker () (.openSession ⟨0, 0⟩ rfl rfl rfl) nofun)
  have h8 := h7.step (.worker () .setupConnectionId nofun)
  have h9 := h8.step (.worker () .handleOpen nofun)
  have h10 := h9.step (.worker () (.enter rfl) nofun)
  have h11 := h10.step (.worker () (.pop rfl) nofun)
  have h12 := h11.step (.worker () (.messageUnbound rfl rfl) nofun)
  have h13 := h12.step (.worker () (.openSession ⟨0, 0⟩ rfl rfl rfl) nofun)
  have h14 := h13.step (.worker () .setupConnectionId nofun)
  have h15 := h14.step (.worker () .handleOpen nofun)
  have h16 := h15.step (.loop rfl (.enter rfl rfl))
  have h17 := h16.step (.loop rfl (.canMatch rfl))
  have h18 := h17.step (.loop rfl (.swapUpdates 0 rfl (by decide)))
  have h19 := h18.step (.loop rfl (.createSession rfl rfl rfl))
  have h20 := h19.step (.loop rfl (.insertPlayer rfl rfl))
  have h21 := h20.step (.loop rfl (.clearUpdates rfl))
  have h22 := h21.step (.loop rfl (.eraseFinished rfl))
  have h23 := h22.step (.loop rfl
    (.matchSessions [] [((7 : Nat), text)] rfl ⟨.nil, List.forall_mem_nil _⟩))
  obtain ⟨⟨ms, note⟩, h24, he⟩ := matchmakingServer_noted h23
  subst he
  have hada : 1 ∈ ({2, 1} : Finset Nat) := by decide
  have hbob : 2 ∈ ({2, 1} : Finset Nat).erase 1 := by decide
  have h25 := noted_step h24 (.loop rfl (.broadcast rfl))
  have h26 := noted_step h25
    (.loop rfl (.sendMessage (1 : Nat) rfl hada rfl (.sendMessage _ _ rfl)))
  have h27 := noted_step h26 (.call nofun .pushMessage)
  have h28 := noted_step h27
    (.loop rfl (.sendMessage (2 : Nat) rfl hbob rfl (.sendMessage _ _ rfl)))
  have h29 := noted_step h28 (.call nofun .pushMessage)
  exact ⟨_, h29, rfl, rfl, _, rfl, rfl, rfl, rfl⟩

/-- Of two players, both get the empty message unchanged, and not both the message "hi". -/
theorem broadcast_unchanged_iff_two :
    (∃ σ : BroadcastServer natTraits Nat Unit, ∃ b, σ.note = some b ∧
      b.connected.length = 2 ∧ b.text = "" ∧ b.Unchanged) ∧
    ∃ σ : BroadcastServer natTraits Nat Unit, ∃ b, σ.note = some b ∧
      b.connected.length = 2 ∧ b.text = "hi" ∧ ¬ b.Unchanged := by
  constructor
  · obtain ⟨σ, h, hl, hidle, b, hb, htext, hconn, -⟩ := two_players_broadcast ""
    obtain ⟨b', hb', -, -, -, -, hiff⟩ := broadcast_unchanged_iff h hl hidle
    cases hb.symm.trans hb'
    exact ⟨σ, b, hb, congrArg List.length hconn, htext, hiff.2 (.inr htext)⟩
  · obtain ⟨σ, h, hl, hidle, b, hb, htext, hconn, -⟩ := two_players_broadcast "hi"
    obtain ⟨b', hb', -, -, -, -, hiff⟩ := broadcast_unchanged_iff h hl hidle
    cases hb.symm.trans hb'
    refine ⟨σ, b, hb, congrArg List.length hconn, htext, fun hu => ?_⟩
    rcases hiff.1 hu with hone | hempty
    · rw [hconn] at hone
      exact absurd hone (by decide)
    · exact absurd (htext.symm.trans hempty) (by decide)

/-- The message "hi" for session 7: Ada gets it and Bob gets an empty text. -/
theorem second_player_gets_nothing :
    ∃ σ : BroadcastServer natTraits Nat Unit,
      (broadcastServer natConfig natMatchmaker 0).Reachable σ ∧
      σ.server.loop = .broadcastingTo (7 : Nat) "" ∅ [] [] ∧
      σ.server.base.caller () = .idle ∧
      ∃ b : Broadcast natTraits, σ.note = some b ∧ b.text = "hi" ∧
        b.queued.map Action.msg = ["hi", ""] ∧ ¬ b.Unchanged := by
  obtain ⟨σ, h, hl, hidle, b, hb, htext, hconn, hmsgs⟩ := two_players_broadcast "hi"
  refine ⟨σ, h, hl, hidle, b, hb, htext, hmsgs, fun hu => ?_⟩
  rw [hu.2.2, hconn, htext] at hmsgs
  have hbob : "hi" = "" := (List.cons.inj (List.cons.inj hmsgs).2).1
  exact absurd hbob (by decide)

end WebGameServer
