import WebGameServer.BaseServer.Handlers
import WebGameServer.BaseServer.Representation

namespace WebGameServer
set_option autoImplicit true

/-- A call of `m_handle_open` or of `m_handle_close`. -/
inductive HandlerCall where
  | opened
  | closed
  deriving DecidableEq

def ClosesFollowOpens (calls : List HandlerCall) : Prop :=
  ∀ earlier later, calls = earlier ++ .closed :: later → earlier.getLast? = some .opened

theorem ClosesFollowOpens.snoc (h : ClosesFollowOpens calls)
    (hc : call = .closed → calls.getLast? = some .opened) :
    ClosesFollowOpens (calls ++ [call]) := by
  intro earlier later he
  rcases List.eq_nil_or_concat later with rfl | ⟨later, last, rfl⟩
  · obtain ⟨rfl, hcall⟩ := List.append_inj' he rfl
    exact hc (List.cons.inj hcall).1
  · rw [List.concat_eq_append, ← List.cons_append, ← List.append_assoc] at he
    exact h earlier later (List.append_inj' he rfl).1

section Local

variable {T : Traits} {Thread : Type} {cfg : Config T} {me : Thread} {s s' : Server T Thread}
  {pc pc' : WorkerPc T} {log evs : List (Event T)}

def Event.handlerCall (cid : CombinedId T) : Event T → Option HandlerCall
  | .handleOpen id _ => if id = cid then some .opened else none
  | .handleClose id => if id = cid then some .closed else none
  | _ => none

def handlerCalls (log : List (Event T)) (cid : CombinedId T) : List HandlerCall :=
  log.filterMap (Event.handlerCall cid)

/-- The id and the data of a call of `m_handle_open`. -/
def Event.openCall : Event T → Option (CombinedId T × T.Json)
  | .handleOpen id data => some (id, data)
  | _ => none

/-- A verified token with its id and data. -/
abbrev Login (T : Traits) := String × CombinedId T × T.Json

/-- The login that the thread has started to bind and not reported to the handler yet. -/
def WorkerPc.login : WorkerPc T → Option (CombinedId T × T.Json)
  | .binding _ cid data | .entering _ cid data => some (cid, data)
  | _ => none

def WorkerPc.closingId : WorkerPc T → Option (CombinedId T)
  | .leaving _ cid | .uncounting _ cid | .closing _ cid => some cid
  | _ => none

/-- A login is noted when `open_session` has verified its token and found its session not
locked. -/
def WorkerPc.logins : WorkerPc T → WorkerPc T → List (Login T)
  | .opening _ token, .binding _ cid data => [(token, cid, data)]
  | _, _ => []

/-- The handler calls so far agree with the bindings, up to the call that is due, and with the
logins. -/
structure Reported (cfg : Config T) (log : List (Event T)) (s : Server T Thread)
    (pc : WorkerPc T) (logins : List (Login T)) : Prop where
  follows : ∀ cid, ClosesFollowOpens (handlerCalls log cid)
  last : ∀ cid, pc.enteringId ≠ some cid →
    ((s.idConnections.lookup cid).isSome ∨ pc.closingId = some cid ↔
      (handlerCalls log cid).getLast? = some .opened)
  opens : log.filterMap Event.openCall ++ pc.login.toList = logins.map Prod.snd
  verified : ∀ login ∈ logins, cfg.verify login.1 = some login.2

theorem handlerCalls_append (log evs : List (Event T)) (cid : CombinedId T) :
    handlerCalls (log ++ evs) cid = handlerCalls log cid ++ handlerCalls evs cid :=
  List.filterMap_append

def Unreported (evs : List (Event T)) : Prop :=
  (∀ cid, handlerCalls evs cid = []) ∧ evs.filterMap Event.openCall = []

theorem unreported (h : ∀ e ∈ evs, e.handled = false) : Unreported evs := by
  refine ⟨fun cid => filterMap_unhandled h fun e he => ?_, filterMap_unhandled h fun e he => ?_⟩
  all_goals cases e <;> first | rfl | cases he

theorem Reported.move (h : Reported cfg log s pc logins) (hevs : Unreported evs)
    (hi : s'.idConnections = s.idConnections) (he : pc'.enteringId = pc.enteringId)
    (hc : pc'.closingId = pc.closingId) (hl : pc'.login = pc.login) :
    Reported cfg (log ++ evs) s' pc' logins where
  follows cid := by
    rw [handlerCalls_append, hevs.1, List.append_nil]
    exact h.follows cid
  last cid hn := by
    rw [handlerCalls_append, hevs.1, List.append_nil, hi, hc]
    exact h.last cid (he ▸ hn)
  opens := by
    rw [List.filterMap_append, hevs.2, List.append_nil, hl]
    exact h.opens
  verified := h.verified

theorem Reported.disconnectConnection (h : Reported cfg log s (.disconnecting hdl cid) logins)
    (hb : Bound s (.disconnecting hdl cid)) :
    Reported cfg log (s.disconnectConnection hdl cid) (.leaving hdl cid) logins := by
  have hi : s.idConnections.lookup cid = some hdl := (hb.inverse hdl cid).1 hb.fits
  refine ⟨h.follows, fun cid' _ => ?_, h.opens, h.verified⟩
  have hlast := h.last cid' nofun
  simp only [WorkerPc.closingId, reduceCtorEq, or_false] at hlast
  rw [← hlast]
  simp only [Server.disconnectConnection, Map.lookup_erase_ite, WorkerPc.closingId,
    Option.some.injEq]
  by_cases he : cid' = cid
  · subst he
    simp only [↓reduceIte, Option.isSome_none, Bool.false_eq_true, or_true, hi, Option.isSome_some]
  · simp only [he, Ne.symm he, ↓reduceIte, or_false]

theorem Reported.setupConnectionId (h : Reported cfg log s (.binding hdl cid data) logins) :
    Reported cfg log (s.setupConnectionId hdl cid) (.entering hdl cid data) logins := by
  refine ⟨h.follows, fun cid' hn => ?_, h.opens, h.verified⟩
  have hne : cid' ≠ cid := fun he => hn (he ▸ rfl)
  have hlast := h.last cid' nofun
  rw [← hlast, Server.lookup_idConnections_setup, if_neg hne]
  exact .rfl

theorem handlerCalls_handleOpen (log : List (Event T)) (cid : CombinedId T) (data : T.Json)
    (cid' : CombinedId T) : handlerCalls (log ++ [.handleOpen cid data]) cid' =
      handlerCalls log cid' ++ if cid = cid' then [.opened] else [] := by
  rw [handlerCalls_append]
  by_cases he : cid = cid' <;> simp [handlerCalls, Event.handlerCall, he]

theorem handlerCalls_handleClose (log : List (Event T)) (cid cid' : CombinedId T) :
    handlerCalls (log ++ [.handleClose cid]) cid' =
      handlerCalls log cid' ++ if cid = cid' then [.closed] else [] := by
  rw [handlerCalls_append]
  by_cases he : cid = cid' <;> simp [handlerCalls, Event.handlerCall, he]

theorem ClosesFollowOpens.call {calls : CombinedId T → List HandlerCall} {call : HandlerCall}
    (h : ∀ cid, ClosesFollowOpens (calls cid)) (cid cid' : CombinedId T)
    (hc : call = .closed → (calls cid).getLast? = some .opened) :
    ClosesFollowOpens (calls cid' ++ if cid = cid' then [call] else []) := by
  by_cases he : cid = cid'
  · subst he
    rw [if_pos rfl]
    exact (h cid).snoc hc
  · rw [if_neg he, List.append_nil]
    exact h cid'

theorem Reported.handleOpen (h : Reported cfg log s (.entering hdl cid data) logins)
    (hb : Bound s (.entering hdl cid data)) :
    Reported cfg (log ++ [.handleOpen cid data])
      ({ s.insertPlayer cid with sessionLock := none } : Server T Thread) .testing logins := by
  have hi : s.idConnections.lookup cid = some hdl := hb.fits
  constructor
  · intro cid'
    rw [handlerCalls_handleOpen]
    exact .call h.follows cid cid' nofun
  · intro cid' _
    rw [handlerCalls_handleOpen]
    by_cases he : cid = cid'
    · subst he
      rw [if_pos rfl, List.getLast?_concat]
      exact iff_of_true (.inl (Option.isSome_iff_exists.2 ⟨hdl, hi⟩)) rfl
    · rw [if_neg he, List.append_nil, ← h.last cid' fun hn => he (Option.some.inj hn)]
      exact .rfl
  · rw [List.filterMap_append, ← h.opens]
    exact List.append_nil _
  · exact h.verified

theorem Reported.handleClose (h : Reported cfg log s (.closing hdl cid) logins)
    (hb : Bound s (.closing hdl cid)) :
    Reported cfg (log ++ [.handleClose cid]) s .testing logins := by
  have hi : s.idConnections.lookup cid = none := hb.fits
  constructor
  · intro cid'
    rw [handlerCalls_handleClose]
    exact .call h.follows cid cid' fun _ => (h.last cid nofun).1 (.inr rfl)
  · intro cid' _
    rw [handlerCalls_handleClose]
    by_cases he : cid = cid'
    · subst he
      rw [if_pos rfl, List.getLast?_concat, hi]
      simp only [Option.isSome_none, Bool.false_eq_true, WorkerPc.closingId, reduceCtorEq,
        or_self, Option.some.injEq]
    · have hlast := h.last cid' nofun
      simp only [WorkerPc.closingId, Option.some.injEq, he, or_false] at hlast
      rw [if_neg he, List.append_nil, ← hlast]
      simp only [WorkerPc.closingId, reduceCtorEq, or_false]
  · rw [List.filterMap_append, ← h.opens, List.append_assoc]
    rfl
  · exact h.verified

theorem WorkerStep.reported (h : WorkerStep cfg me s pc evs s' pc')
    (hr : Reported cfg log s pc logins) (hb : Bound s pc) :
    Reported cfg (log ++ evs) s' pc' (logins ++ pc.logins pc') := by
  have hnil : Unreported ([] : List (Event T)) := ⟨fun _ => rfl, rfl⟩
  have quiet (hevs : Unreported evs) (hi : s'.idConnections = s.idConnections)
      (he : pc'.enteringId = pc.enteringId) (hc : pc'.closingId = pc.closingId)
      (hl : pc'.login = pc.login) (hn : pc.logins pc' = []) :
      Reported cfg (log ++ evs) s' pc' (logins ++ pc.logins pc') := by
    rw [hn, List.append_nil]
    exact hr.move hevs hi he hc hl
  cases h with
  | enter hr | exit hr | wait ha | wakeStopped hr => exact quiet hnil rfl rfl rfl rfl rfl
  | pop ha | wakePop hr ha => exact quiet ⟨fun _ => rfl, rfl⟩ rfl rfl rfl rfl rfl
  | subscribe ht | unsubscribeUnbound ht hu | unsubscribeBound ht hi | messageUnbound ht hu
  | messageBound ht hi => exact quiet hnil rfl rfl rfl rfl rfl
  | outMessage ht | closeConnection ht | invalidToken hv | handleMessage =>
    exact quiet ⟨fun _ => rfl, rfl⟩ rfl rfl rfl rfl rfl
  | disconnectConnection =>
    simp only [WorkerPc.logins, List.append_nil]
    exact hr.disconnectConnection hb
  | disconnectSession hn =>
    exact quiet hnil (Server.disconnectSession_idConnections s) rfl rfl rfl rfl
  | uncount => exact quiet hnil rfl rfl rfl rfl rfl
  | handleClose =>
    simp only [WorkerPc.logins, List.append_nil]
    exact hr.handleClose hb
  | lockedSession c hv hn hl =>
    exact quiet ⟨fun _ => rfl, rfl⟩ (Server.updateSessionLocks_idConnections s) rfl rfl rfl rfl
  | @openSession _ token cid data hdl c hv hn hl =>
    constructor
    · simpa only [List.append_nil] using hr.follows
    · intro cid' _
      have hlast := hr.last cid' nofun
      simp only [List.append_nil, Server.updateSessionLocks_idConnections]
      exact hlast
    · have hopens := hr.opens
      simp only [WorkerPc.login, Option.toList_none, List.append_nil] at hopens
      rw [List.append_nil, hopens, List.map_append]
      rfl
    · intro login hm
      rcases List.mem_append.1 hm with hm | hm
      · exact hr.verified login hm
      · cases List.mem_singleton.1 hm
        exact hv
  | setupConnectionId =>
    simp only [WorkerPc.logins, List.append_nil]
    apply hr.setupConnectionId.move ⟨fun cid' => ?_, ?_⟩ rfl rfl rfl rfl
    · cases s.duplicateOf _ <;> rfl
    · cases s.duplicateOf _ <;> rfl
  | handleOpen =>
    simp only [WorkerPc.logins, List.append_nil]
    exact hr.handleOpen hb

theorem WorkerStep.logins_eq (h : WorkerStep cfg me s (.opening hdl token) evs s' pc') :
    (WorkerPc.opening hdl token).logins pc' =
      match cfg.verify token with
      | some (cid, data) => if s'.isLocked cid.session then [] else [(token, cid, data)]
      | none => [] := by
  cases h with
  | invalidToken hv =>
    rw [hv]
    rfl
  | lockedSession c hv hn hl =>
    rw [hv]
    exact (if_pos (BufferedMap.contains_of_at? _ hl)).symm
  | openSession c hv hn hl =>
    rw [hv]
    exact (if_neg (Bool.eq_false_iff.1 hl)).symm

end Local

variable {T : Traits} {Caller : Type} [DecidableEq Caller] {cfg : Config T}
  {σ : System T Unit Caller}

/-- The observer notes the logins of the only worker. -/
def NotesLogins (σ : System T Unit Caller) (_ : List (Event T)) (σ' : System T Unit Caller)
    (logins : List (Login T)) : Prop :=
  logins = (σ.worker ()).logins (σ'.worker ())

theorem WorkerPc.logins_self (pc : WorkerPc T) : pc.logins pc = [] := by
  cases pc <;> rfl

theorem reported_traced
    (h : ((baseServer cfg).restrict NoStop).Traced NotesLogins logins σ) :
    Reported cfg σ.log σ.server (σ.worker ()) logins := by
  apply h.invariant (J := fun logins σ => Reported cfg σ.log σ.server (σ.worker ()) logins) ?_ ?_
  · intro σ hinit
    obtain ⟨t, rfl⟩ := hinit
    constructor
    · intro cid earlier later he
      cases (List.append_eq_nil_iff.1 he.symm).2
    · intro cid _
      exact ⟨fun h => h.elim nofun nofun, nofun⟩
    · exact rfl
    · exact List.forall_mem_nil _
  · rintro logins σ evs σ' ns hr hσ ⟨h, hn⟩ rfl
    have hother (hevs : ∀ e ∈ evs, e.handled = false) (hs : SameBindings σ.server σ'.server)
        (hw : σ'.worker = σ.worker) (hlog : σ'.log = σ.log ++ evs) :
        Reported cfg σ'.log σ'.server (σ'.worker ())
          (logins ++ (σ.worker ()).logins (σ'.worker ())) := by
      rw [hw, WorkerPc.logins_self, List.append_nil, hlog]
      exact hσ.move (unreported hevs) hs.idConnections rfl rfl rfl
    cases h with
    | transport h => exact hother h.unhandled h.sameBindings rfl rfl
    | worker w h =>
      simp only [Function.update_self]
      exact h.reported hσ (bound_invariant.reachable hr)
    | caller c h => exact hother h.unhandled h.sameBindings rfl rfl
    | control h => exact hother h.unhandled (h.sameBindings hn) rfl rfl

theorem Step.logins_eq (h : Step cfg σ evs σ') (hw : σ.worker () = .opening hdl token)
    (hw' : σ'.worker () ≠ .opening hdl token) :
    (σ.worker ()).logins (σ'.worker ()) =
      match cfg.verify token with
      | some (cid, data) =>
        if σ'.server.isLocked cid.session then [] else [(token, cid, data)]
      | none => [] := by
  cases h with
  | transport h | caller c h | control h => exact (hw' hw).elim
  | worker w h =>
    rw [hw] at h ⊢
    simp only [Function.update_self]
    exact h.logins_eq

/-- With one worker and no `stop`: for every id each close call comes directly after an open
call; between two actions the id is bound exactly if its last call was an open; and the open
calls are those of the noted logins, one for each and with its data, where `open_session` notes
a login exactly if the token verifies and the session is not locked. -/
theorem handler_calls_match_bindings
    (h : ((baseServer cfg).restrict NoStop).Traced NotesLogins logins σ) :
    (∀ cid, ClosesFollowOpens (handlerCalls σ.log cid)) ∧
    ((σ.worker ()).resting = true →
      (∀ cid, cid ∈ σ.server.idConnections.keys ↔
        (handlerCalls σ.log cid).getLast? = some .opened) ∧
      σ.log.filterMap Event.openCall = logins.map Prod.snd) ∧
    (∀ login ∈ logins, cfg.verify login.1 = some login.2) ∧
    ∀ evs σ' hdl token ns, Step cfg σ evs σ' → σ.worker () = .opening hdl token →
      σ'.worker () ≠ .opening hdl token → NotesLogins σ evs σ' ns →
      ns = match cfg.verify token with
        | some (cid, data) =>
          if σ'.server.isLocked cid.session then [] else [(token, cid, data)]
        | none => [] := by
  have hr := reported_traced h
  refine ⟨hr.follows, fun hrest => ?_, hr.verified, ?_⟩
  · have hentering : (σ.worker ()).enteringId = none := by
      cases hp : σ.worker () <;> first | rfl | (rw [hp] at hrest; cases hrest)
    have hclosing : (σ.worker ()).closingId = none := by
      cases hp : σ.worker () <;> first | rfl | (rw [hp] at hrest; cases hrest)
    have hlogin : (σ.worker ()).login = none := by
      cases hp : σ.worker () <;> first | rfl | (rw [hp] at hrest; cases hrest)
    constructor
    · intro cid
      rw [← hr.last cid (by rw [hentering]; exact nofun), hclosing, Map.mem_keys_iff,
        ← Option.isSome_iff_exists]
      exact (or_iff_left nofun).symm
    · have hopens := hr.opens
      rwa [hlogin, Option.toList_none, List.append_nil] at hopens
  · rintro evs σ' hdl token ns hstep hw hw' rfl
    exact hstep.logins_eq hw hw'

/-- Ada logs in twice and leaves with her second connection: two opens and one close. -/
theorem handler_calls_match_bindings_login :
    ∃ (σ : System natTraits Unit Unit) (logins : List (Login natTraits)),
      handlerCalls σ.log ⟨1, 7⟩ = [.opened, .opened, .closed] ∧
      ClosesFollowOpens (handlerCalls σ.log ⟨1, 7⟩) ∧
      logins = [("ada", ⟨1, 7⟩, 0), ("ada", ⟨1, 7⟩, 0)] ∧
      σ.log.filterMap Event.openCall = logins.map Prod.snd := by
  have h0 : ((baseServer natConfig).restrict NoStop).Traced NotesLogins []
      (System.start 0 : System natTraits Unit Unit) := .init ⟨0, rfl⟩
  have h1 := h0.step ⟨.control (.run rfl), by simp [NoStop]⟩ rfl
  have h2 := h1.step ⟨.transport (.onMessage (5 : Nat) "ada"), by simp [NoStop]⟩ rfl
  have h3 := h2.step ⟨.transport (.onMessage (6 : Nat) "ada"), by simp [NoStop]⟩ rfl
  have h4 := h3.step ⟨.transport (.onClose (6 : Nat)), by simp [NoStop]⟩ rfl
  have h5 := h4.step ⟨.worker () (.enter rfl), by simp [NoStop]⟩ rfl
  have h6 := h5.step ⟨.worker () (.pop rfl), by simp [NoStop]⟩ rfl
  have h7 := h6.step ⟨.worker () (.messageUnbound rfl rfl), by simp [NoStop]⟩ rfl
  have h8 := h7.step ⟨.worker () (.openSession ⟨0, 0⟩ rfl rfl rfl), by simp [NoStop]⟩ rfl
  have h9 := h8.step ⟨.worker () .setupConnectionId, by simp [NoStop, Server.duplicateOf]⟩ rfl
  have h10 := h9.step ⟨.worker () .handleOpen, by simp [NoStop]⟩ rfl
  have h11 := h10.step ⟨.worker () (.enter rfl), by simp [NoStop]⟩ rfl
  have h12 := h11.step ⟨.worker () (.pop rfl), by simp [NoStop]⟩ rfl
  have h13 := h12.step ⟨.worker () (.messageUnbound rfl rfl), by simp [NoStop]⟩ rfl
  have h14 := h13.step ⟨.worker () (.openSession ⟨0, 0⟩ rfl rfl rfl), by simp [NoStop]⟩ rfl
  have h15 := h14.step ⟨.worker () .setupConnectionId, by simp [NoStop, Server.duplicateOf]⟩ rfl
  have h16 := h15.step ⟨.worker () .handleOpen, by simp [NoStop]⟩ rfl
  have h17 := h16.step ⟨.worker () (.enter rfl), by simp [NoStop]⟩ rfl
  have h18 := h17.step ⟨.worker () (.pop rfl), by simp [NoStop]⟩ rfl
  have h19 := h18.step ⟨.worker () (.unsubscribeBound rfl rfl), by simp [NoStop]⟩ rfl
  have h20 := h19.step ⟨.worker () .disconnectConnection, by simp [NoStop]⟩ rfl
  have h21 := h20.step ⟨.worker () (.disconnectSession rfl), by simp [NoStop]⟩ rfl
  have h22 := h21.step ⟨.worker () .uncount, by simp [NoStop]⟩ rfl
  have h23 := h22.step ⟨.worker () .handleClose, by simp [NoStop]⟩ rfl
  obtain ⟨hfollows, hrest, -, -⟩ := handler_calls_match_bindings h23
  exact ⟨_, _, rfl, hfollows _, rfl, (hrest rfl).2⟩

end WebGameServer
