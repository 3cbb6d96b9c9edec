import WebGameServer.BaseServer.Calls

namespace WebGameServer
set_option autoImplicit true

section Local

variable {T : Traits} {Thread : Type} {cfg : Config T} {me : Thread} {s s' : Server T Thread}
  {pc pc' : WorkerPc T} {log evs : List (Event T)} {hdl : T.Hdl}

theorem WorkerPc.holds_of_message (h : pc.message hdl = some msg) : pc.holds = some hdl := by
  cases pc with
  | handling a =>
    simp only [WorkerPc.message, Action.message, Option.ite_none_right_eq_some] at h
    rw [WorkerPc.holds, if_pos h.1.1, h.1.2]
  | messaging a cid m =>
    simp only [WorkerPc.message, Option.ite_none_right_eq_some] at h
    rw [WorkerPc.holds, h.1]
  | _ => cases h

theorem WorkerPc.holds_of_loggingIn (h : pc.loggingIn = some hdl) : pc.holds = some hdl := by
  cases pc with
  | opening a token | binding a cid data => exact h
  | _ => cases h

theorem WorkerPc.call_of_loggingIn (h : pc.loggingIn = some hdl) (pc' : WorkerPc T) :
    pc.call pc' = none := by
  cases pc <;> cases pc' <;> first | rfl | cases h

/-- A worker turns to another handle only after it has let go of the last one. -/
theorem WorkerStep.holds (h : WorkerStep cfg me s pc evs s' pc') :
    pc.holds = none ∨ pc'.holds = none ∨ pc'.holds = pc.holds := by
  cases h with
  | messageUnbound ht hn | messageBound ht hn => exact .inr (.inr (if_pos ht).symm)
  | pop ha | wakePop hr ha => exact .inl rfl
  | openSession c hv hn hl => exact .inr (.inr rfl)
  | _ => exact .inr (.inl rfl)

/-- What a step does with the messages of the handle: it pops one, passes one to a call, or
neither. -/
inductive MessageFlow (hdl : T.Hdl) (s s' : Server T Thread) (pc pc' : WorkerPc T) : Prop where
  | popped (hn : pc.holds = none) (hm : pc'.message hdl = some msg)
      (hq : s.queuedOn hdl = msg :: s'.queuedOn hdl) (hc : pc.call pc' = none)
  | called (hc : pc.call pc' = some call) (hh : call.hdl = hdl)
      (hm : pc.message hdl = some call.msg) (hn : pc'.message hdl = none)
      (hq : s'.queuedOn hdl = s.queuedOn hdl)
  | unchanged (hm : pc'.message hdl = pc.message hdl)
      (hq : s'.queuedOn hdl = s.queuedOn hdl)
      (hc : ∀ call, pc.call pc' = some call → call.hdl ≠ hdl)

theorem MessageFlow.pop (ha : s.actions = a :: rest) (hn : pc.holds = none)
    (hm : pc.message hdl = none) (hc : pc.call (.handling a) = none) :
    MessageFlow hdl s { s with actions := rest } pc (.handling a) := by
  cases hmsg : a.message hdl with
  | some msg =>
    refine .popped hn hmsg ?_ hc
    simp only [Server.queuedOn, ha, List.filterMap_cons, hmsg]
  | none =>
    refine .unchanged (hmsg.trans hm.symm) ?_ fun call h => ?_
    · simp only [Server.queuedOn, ha, List.filterMap_cons, hmsg]
    · rw [hc] at h
      cases h

theorem Action.message_none {a : Action T} (h : a.type ≠ .inMessage) : a.message hdl = none :=
  if_neg fun h' => h h'.1

theorem MessageFlow.messageUnbound (ht : a.type = .inMessage) :
    MessageFlow hdl s s (.handling a) (.opening a.hdl a.msg) := by
  by_cases hh : a.hdl = hdl
  · exact .called rfl hh (if_pos ⟨ht, hh⟩) rfl rfl
  · refine .unchanged (if_neg fun h => hh h.2).symm rfl fun call h => ?_
    cases h
    exact hh

theorem MessageFlow.handleMessage : MessageFlow hdl s s (.messaging a cid msg) .testing := by
  by_cases hh : a = hdl
  · exact .called rfl hh (if_pos hh) rfl rfl
  · refine .unchanged (if_neg hh).symm rfl fun call h => ?_
    cases h
    exact hh

theorem WorkerStep.flow (h : WorkerStep cfg me s pc evs s' pc') (hdl : T.Hdl) :
    MessageFlow hdl s s' pc pc' := by
  have quiet (hm : pc'.message hdl = pc.message hdl) (ha : s'.actions = s.actions)
      (hc : pc.call pc' = none) : MessageFlow hdl s s' pc pc' := by
    refine .unchanged hm ?_ fun call h => ?_
    · rw [Server.queuedOn, ha]
      rfl
    · rw [hc] at h
      cases h
  cases h with
  | pop ha | wakePop hr ha => exact .pop ha rfl rfl rfl
  | messageUnbound ht hn => exact .messageUnbound ht
  | messageBound ht hi =>
    apply quiet ?_ rfl rfl
    simp only [WorkerPc.message, Action.message, ht, true_and]
  | handleMessage => exact .handleMessage
  | subscribe ht | unsubscribeUnbound ht hn | unsubscribeBound ht hi | outMessage ht
  | closeConnection ht =>
    apply quiet ?_ rfl rfl
    exact (Action.message_none (by rw [ht]; decide)).symm
  | disconnectSession hn => exact quiet rfl (Server.disconnectSession_actions s) rfl
  | lockedSession c hv hn hr | openSession c hv hn hl =>
    exact quiet rfl (Server.updateSessionLocks_actions s) rfl
  | setupConnectionId => exact quiet rfl (Server.setupConnectionId_actions s) rfl
  | _ => exact quiet rfl rfl rfl

theorem receivedOn_eq_nil {o : Origin} (ho : o ≠ .transport)
    (h : ∀ e ∈ evs, o.shows e = true) (hdl : T.Hdl) : receivedOn hdl evs = [] := by
  rw [receivedOn, List.filterMap_eq_nil_iff]
  intro e he
  have hs := h e he
  cases e with
  | received a msg =>
    cases o with
    | transport => exact (ho rfl).elim
    | _ => cases hs
  | _ => rfl

theorem WorkerStep.of_messaging (h : WorkerStep cfg me s pc evs s' (.messaging hdl cid msg)) :
    s'.connectionIds.lookup hdl = some cid := by
  cases h with
  | messageBound ht hi => exact hi

/-- A call is made for a handle that is not bound or with the id that was looked up. -/
theorem WorkerStep.call_cases (h : WorkerStep cfg me s pc evs s' pc')
    (hc : pc.call pc' = some call) :
    s' = s ∧
      ((call.id = none ∧ pc' = .opening call.hdl call.msg ∧
          s.connectionIds.lookup call.hdl = none) ∨
        ∃ cid, call.id = some cid ∧ pc = .messaging call.hdl cid call.msg ∧ pc' = .testing) := by
  cases h with
  | messageUnbound ht hn =>
    cases hc
    exact ⟨rfl, .inl ⟨rfl, rfl, hn⟩⟩
  | handleMessage =>
    cases hc
    exact ⟨rfl, .inr ⟨_, rfl, rfl, rfl⟩⟩
  | _ => cases hc

theorem WorkerStep.loggingIn (h : WorkerStep cfg me s pc evs s' pc')
    (hp : pc'.loggingIn = some hdl) :
    pc.loggingIn = some hdl ∨ ∃ token, pc.call pc' = some ⟨hdl, token, none⟩ := by
  cases h with
  | messageUnbound ht hn =>
    cases hp
    exact .inr ⟨_, rfl⟩
  | openSession c hv hn hl =>
    cases hp
    exact .inl rfl
  | _ => cases hp

theorem lookup_setup_of_ne (s : Server T Thread) (hne : a ≠ hdl)
    (hd : s.duplicateOf cid ≠ some a) :
    (s.setupConnectionId hdl cid).connectionIds.lookup a = s.connectionIds.lookup a := by
  simp only [Server.setupConnectionId]
  split
  · next old ho =>
    rw [Map.lookup_emplace, if_neg hne, Map.lookup_erase_ite, if_neg]
    rintro rfl
    exact hd ho
  · rw [Map.lookup_emplace, if_neg hne]

theorem WorkerStep.lookup_kept (h : WorkerStep cfg me s pc evs s' pc')
    (hk : Kept (log ++ evs) hdl) (hc : ClosedFirst log s pc) (hb : pc.loggingIn ≠ some hdl) :
    s'.connectionIds.lookup hdl = s.connectionIds.lookup hdl := by
  cases h with
  | @disconnectConnection _ a cid =>
    simp only [Server.disconnectConnection, Map.lookup_erase_ite]
    rw [if_neg]
    rintro rfl
    exact hk.unclosed (List.mem_append_left _ (hc.handled hdl rfl))
  | @setupConnectionId _ a cid data =>
    apply lookup_setup_of_ne
    · rintro rfl
      exact hb rfl
    · intro hd
      apply hk.unreplaced (List.mem_append_right _ ?_)
      exact List.mem_map.2 ⟨hdl, Option.mem_toList.2 hd, rfl⟩
  | disconnectSession hn => rw [Server.disconnectSession_connectionIds]
  | lockedSession c hv hn hr => rw [Server.updateSessionLocks_connectionIds]
  | openSession c hv hn hl => simp only [Server.updateSessionLocks_connectionIds]
  | _ => rfl

theorem receivedOn_append (hdl : T.Hdl) (log evs : List (Event T)) :
    receivedOn hdl (log ++ evs) = receivedOn hdl log ++ receivedOn hdl evs :=
  List.filterMap_append

theorem callsOn_append_self {call : Call T} (calls : List (Call T)) (h : call.hdl = hdl) :
    callsOn hdl (calls ++ (some call).toList) = callsOn hdl calls ++ [call] := by
  rw [callsOn, List.filter_append, Option.toList_some, List.filter_singleton, decide_eq_true h]
  rfl

theorem callsOn_append_of_ne {next : Option (Call T)} (calls : List (Call T))
    (h : ∀ call, next = some call → call.hdl ≠ hdl) :
    callsOn hdl (calls ++ next.toList) = callsOn hdl calls := by
  cases next with
  | none => rw [Option.toList_none, List.append_nil]
  | some call =>
    rw [callsOn, List.filter_append, Option.toList_some, List.filter_singleton,
      decide_eq_false (h call rfl)]
    exact List.append_nil _

theorem callsOn_append_none {next : Option (Call T)} (calls : List (Call T)) (h : next = none) :
    callsOn hdl (calls ++ next.toList) = callsOn hdl calls := by
  rw [h, Option.toList_none, List.append_nil]

end Local

section Line

variable {T : Traits} {Worker : Type} [DecidableEq Worker] {pcs : Worker → WorkerPc T}
  {order : List Worker} {pc : WorkerPc T} {w w' : Worker} {hdl : T.Hdl}

theorem nextOrder_cases (w : Worker) (pc' : WorkerPc T) (order : List Worker) :
    (pc.holds = none ∧ nextOrder w pc pc' order = order.filter (· ≠ w) ++ [w]) ∨
      ((pc'.holds = none ∨ pc.holds ≠ none) ∧ nextOrder w pc pc' order = order) := by
  by_cases h : pc.holds.isNone ∧ pc'.holds.isSome
  · exact .inl ⟨Option.isNone_iff_eq_none.1 h.1, if_pos h⟩
  · refine .inr ⟨?_, if_neg h⟩
    cases hp : pc'.holds with
    | none => exact .inl rfl
    | some hdl =>
      refine .inr fun hn => h ⟨?_, ?_⟩
      · rw [hn, Option.isNone_none]
      · rw [hp, Option.isSome_some]

theorem nodup_nextOrder (h : order.Nodup) (w : Worker) (pc pc' : WorkerPc T) :
    (nextOrder w pc pc' order).Nodup := by
  rcases nextOrder_cases w pc' order with ⟨-, he⟩ | ⟨-, he⟩
  · rw [he]
    apply List.nodup_append.2 ⟨h.filter _, List.nodup_singleton w, ?_⟩
    intro a ha b hb hab
    cases List.mem_singleton.1 hb
    exact of_decide_eq_true (List.mem_filter.1 ha).2 hab
  · rw [he]
    exact h

theorem WorkerPc.message_none (h : pc.holds = none) : pc.message hdl = none := by
  cases hm : pc.message hdl with
  | none => rfl
  | some msg =>
    rw [WorkerPc.holds_of_message hm] at h
    cases h

omit [DecidableEq Worker] in
theorem heldOn_cons (hdl : T.Hdl) (pcs : Worker → WorkerPc T) (w : Worker)
    (order : List Worker) :
    heldOn hdl pcs (w :: order) = ((pcs w).message hdl).toList ++ heldOn hdl pcs order := by
  cases h : (pcs w).message hdl <;> simp only [heldOn, List.filterMap_cons, h] <;> rfl

omit [DecidableEq Worker] in
theorem heldOn_append (hdl : T.Hdl) (pcs : Worker → WorkerPc T) (xs ys : List Worker) :
    heldOn hdl pcs (xs ++ ys) = heldOn hdl pcs xs ++ heldOn hdl pcs ys :=
  List.filterMap_append

omit [DecidableEq Worker] in
theorem heldOn_congr {qcs : Worker → WorkerPc T}
    (h : ∀ w ∈ order, (qcs w).message hdl = (pcs w).message hdl) :
    heldOn hdl qcs order = heldOn hdl pcs order :=
  List.filterMap_congr h

theorem heldOn_filter_ne (hm : (pcs w).message hdl = none) :
    heldOn hdl pcs (order.filter (· ≠ w)) = heldOn hdl pcs order := by
  induction order with
  | nil => rfl
  | cons a order ih =>
    by_cases ha : a = w
    · subst ha
      rw [List.filter_cons_of_neg, ih, heldOn_cons, hm]
      · rfl
      · rw [decide_eq_true_eq, not_not]
    · rw [List.filter_cons_of_pos, heldOn_cons, heldOn_cons, ih]
      exact decide_eq_true ha

theorem heldOn_update_notMem (h : w ∉ order) :
    heldOn hdl (Function.update pcs w pc) order = heldOn hdl pcs order := by
  apply heldOn_congr
  intro w' hw
  rw [Function.update_of_ne]
  rintro rfl
  exact h hw

theorem notMem_filter_ne (w : Worker) (order : List Worker) : w ∉ order.filter (· ≠ w) :=
  fun hm => of_decide_eq_true (List.mem_filter.1 hm).2 rfl

theorem heldOn_pop (hn : (pcs w).holds = none) (hm : pc.message hdl = some msg) :
    heldOn hdl (Function.update pcs w pc) (nextOrder w (pcs w) pc order) =
      heldOn hdl pcs order ++ [msg] := by
  have hs := WorkerPc.holds_of_message hm
  rcases nextOrder_cases w pc order with ⟨-, he⟩ | ⟨hp, -⟩
  · rw [he, heldOn_append, heldOn_update_notMem (notMem_filter_ne w order),
      heldOn_filter_ne (WorkerPc.message_none hn), heldOn_cons, Function.update_self, hm]
    rfl
  · rw [hs] at hp
    exact (hp.resolve_left nofun hn).elim

theorem heldOn_unchanged (hm : pc.message hdl = (pcs w).message hdl) :
    heldOn hdl (Function.update pcs w pc) (nextOrder w (pcs w) pc order) =
      heldOn hdl pcs order := by
  have hcongr (order : List Worker) :
      heldOn hdl (Function.update pcs w pc) order = heldOn hdl pcs order := by
    apply heldOn_congr
    intro w' _
    by_cases he : w' = w
    · rw [he, Function.update_self, hm]
    · rw [Function.update_of_ne he]
  rw [hcongr]
  rcases nextOrder_cases w pc order with ⟨hn, he⟩ | ⟨-, he⟩
  · have hnone : (pcs w).message hdl = none := WorkerPc.message_none hn
    rw [he, heldOn_append, heldOn_filter_ne hnone, heldOn_cons, hnone]
    exact List.append_nil _
  · rw [he]

omit [DecidableEq Worker] in
theorem heldOn_eq_nil (h : ∀ w ∈ order, (pcs w).holds ≠ some hdl) :
    heldOn hdl pcs order = [] := by
  rw [heldOn, List.filterMap_eq_nil_iff]
  intro w hw
  cases hm : (pcs w).message hdl with
  | none => rfl
  | some msg => exact (h w hw (WorkerPc.holds_of_message hm)).elim

theorem heldOn_called (hnodup : order.Nodup) (hfirst : oldest hdl pcs order = some w)
    (hm : (pcs w).message hdl = some msg) (hn : pc.message hdl = none) :
    heldOn hdl pcs order =
      msg :: heldOn hdl (Function.update pcs w pc) (nextOrder w (pcs w) pc order) := by
  obtain ⟨-, earlier, later, rfl, he⟩ := List.find?_eq_some_iff_append.1 hfirst
  have hearlier : heldOn hdl pcs earlier = [] := by
    apply heldOn_eq_nil
    intro w' hw'
    simpa only [Bool.not_eq_true', decide_eq_false_iff_not] using he w' hw'
  obtain ⟨-, hlater, hdisjoint⟩ := List.nodup_append.1 hnodup
  have hw : w ∉ earlier := fun hw => hdisjoint w hw w List.mem_cons_self rfl
  rcases nextOrder_cases w pc (earlier ++ w :: later) with ⟨hn', -⟩ | ⟨-, ho⟩
  · rw [WorkerPc.message_none hn'] at hm
    cases hm
  · rw [ho, heldOn_append, heldOn_append, heldOn_cons, heldOn_cons, heldOn_update_notMem hw,
      heldOn_update_notMem (List.nodup_cons.1 hlater).1, Function.update_self, hearlier, hm, hn]
    rfl

theorem oldest_of_ne (h : oldest hdl pcs order = some w') (hne : w' ≠ w)
    (hstep : (pcs w).holds = none ∨ pc.holds = none ∨ pc.holds = (pcs w).holds) :
    oldest hdl (Function.update pcs w pc) (nextOrder w (pcs w) pc order) = some w' := by
  obtain ⟨hw', earlier, later, rfl, he⟩ := List.find?_eq_some_iff_append.1 h
  have hother (v : Worker) (hv : v ∈ earlier) : (pcs v).holds ≠ some hdl := by
    simpa only [Bool.not_eq_true', decide_eq_false_iff_not] using he v hv
  have hlast : decide ((Function.update pcs w pc w').holds = some hdl) = true := by
    rw [Function.update_of_ne hne]
    exact hw'
  apply List.find?_eq_some_iff_append.2
  rcases nextOrder_cases w pc (earlier ++ w' :: later) with ⟨-, ho⟩ | ⟨hp, ho⟩
  · refine ⟨hlast, earlier.filter (· ≠ w), later.filter (· ≠ w) ++ [w], ?_, fun v hv => ?_⟩
    · rw [ho, List.filter_append, List.filter_cons_of_pos, List.append_assoc, List.cons_append]
      exact decide_eq_true hne
    · obtain ⟨hv, hvw⟩ := List.mem_filter.1 hv
      rw [Function.update_of_ne (of_decide_eq_true hvw)]
      exact he v hv
  · refine ⟨hlast, earlier, later, ho, fun v hv => ?_⟩
    by_cases hvw : v = w
    · subst hvw
      have hv' : pc.holds ≠ some hdl := by
        rcases hstep with hs | hs | hs
        · rw [hp.resolve_right (not_not.2 hs)]
          exact nofun
        · rw [hs]
          exact nofun
        · rw [hs]
          exact hother v hv
      simp only [Function.update_self, hv', decide_false, Bool.not_false]
    · rw [Function.update_of_ne hvw]
      exact he v hv

omit [DecidableEq Worker] in
theorem holds_of_oldest (h : oldest hdl pcs order = some w) : (pcs w).holds = some hdl :=
  of_decide_eq_true (List.find?_eq_some_iff_append.1 h).1

theorem oldest_self (h : oldest hdl pcs order = some w) (hs : pc.holds = some hdl) :
    oldest hdl (Function.update pcs w pc) (nextOrder w (pcs w) pc order) = some w := by
  have hw := holds_of_oldest h
  have hcongr (v : Worker) : (Function.update pcs w pc v).holds = (pcs v).holds := by
    by_cases hv : v = w
    · rw [hv, Function.update_self, hs, hw]
    · rw [Function.update_of_ne hv]
  rcases nextOrder_cases w pc order with ⟨hn, -⟩ | ⟨-, ho⟩
  · rw [hw] at hn
    cases hn
  · simp only [ho, oldest, hcongr]
    exact h

end Line

section Connection

variable {T : Traits} {Worker : Type} [DecidableEq Worker] {Thread : Type} {cfg : Config T}
  {pcs : Worker → WorkerPc T} {order : List Worker} {pc : WorkerPc T} {w : Worker}
  {s s' : Server T Thread} {log evs : List (Event T)} {calls : List (Call T)} {hdl : T.Hdl}

/-- How far the login of the handle has come, with the calls for its messages so far. -/
inductive LoginState (cfg : Config T) (hdl : T.Hdl) (log : List (Event T)) (s : Server T Thread)
    (pcs : Worker → WorkerPc T) : List (Call T) → Prop where
  | fresh (hl : s.connectionIds.lookup hdl = none)
      (hn : ∀ w, (pcs w).loggingIn ≠ some hdl) : LoginState cfg hdl log s pcs []
  | opening (w : Worker) (hw : pcs w = .opening hdl token)
      (hl : s.connectionIds.lookup hdl = none) : LoginState cfg hdl log s pcs [⟨hdl, token, none⟩]
  | binding (w : Worker) (hw : pcs w = .binding hdl cid data)
      (hl : s.connectionIds.lookup hdl = none) (hv : cfg.verify token = some (cid, data)) :
      LoginState cfg hdl log s pcs [⟨hdl, token, none⟩]
  | bound (hl : s.connectionIds.lookup hdl = some cid)
      (hv : cfg.verify token = some (cid, data)) (hi : ∀ call ∈ later, call.id = some cid)
      (hn : ∀ w, (pcs w).loggingIn ≠ some hdl) :
      LoginState cfg hdl log s pcs (⟨hdl, token, none⟩ :: later)
  | refused (hr : .closing hdl .invalidJwt ∈ log) (hl : s.connectionIds.lookup hdl = none)
      (hn : ∀ w, (pcs w).loggingIn ≠ some hdl) : LoginState cfg hdl log s pcs [⟨hdl, token, none⟩]

/-- What holds of each connection that is kept: its messages pass from the queue over the
workers to the calls without overtaking, and the calls fit its login. -/
structure InLine (cfg : Config T) (hdl : T.Hdl) (log : List (Event T)) (s : Server T Thread)
    (pcs : Worker → WorkerPc T) (order : List Worker) (calls : List (Call T)) : Prop where
  messages : receivedOn hdl log =
    (callsOn hdl calls).map Call.msg ++ heldOn hdl pcs order ++ s.queuedOn hdl
  first : ∀ w, (pcs w).loggingIn = some hdl → oldest hdl pcs order = some w
  addressed : ∀ w cid msg, pcs w = .messaging hdl cid msg →
    s.connectionIds.lookup hdl = some cid
  login : LoginState cfg hdl log s pcs (callsOn hdl calls)

theorem loggingIn_update_ne (hp : pc.loggingIn ≠ some hdl)
    (hn : ∀ v, v ≠ w → (pcs v).loggingIn ≠ some hdl) (v : Worker) :
    (Function.update pcs w pc v).loggingIn ≠ some hdl := by
  by_cases hv : v = w
  · rw [hv, Function.update_self]
    exact hp
  · rw [Function.update_of_ne hv]
    exact hn v hv

theorem LoginState.move (h : LoginState cfg hdl log s pcs calls)
    (hl : s'.connectionIds.lookup hdl = s.connectionIds.lookup hdl)
    (hw : (pcs w).loggingIn ≠ some hdl) (hp : pc.loggingIn ≠ some hdl) :
    LoginState cfg hdl (log ++ evs) s' (Function.update pcs w pc) calls := by
  have hother {v : Worker} (hv : (pcs v).loggingIn = some hdl) :
      Function.update pcs w pc v = pcs v := by
    rw [Function.update_of_ne]
    rintro rfl
    exact hw hv
  have hnone (hn : ∀ v, (pcs v).loggingIn ≠ some hdl) :=
    loggingIn_update_ne hp fun v (_ : v ≠ w) => hn v
  cases h with
  | fresh hl' hn => exact .fresh (hl.trans hl') (hnone hn)
  | opening v hv hl' =>
    have he : (pcs v).loggingIn = some hdl := by
      rw [hv]
      rfl
    exact .opening v ((hother he).trans hv) (hl.trans hl')
  | binding v hv hl' hverify =>
    have he : (pcs v).loggingIn = some hdl := by
      rw [hv]
      rfl
    exact .binding v ((hother he).trans hv) (hl.trans hl') hverify
  | bound hl' hv hi hn => exact .bound (hl.trans hl') hv hi (hnone hn)
  | refused hr hl' hn => exact .refused (List.mem_append_left _ hr) (hl.trans hl') (hnone hn)

omit [DecidableEq Worker] in
/-- A worker in `open_session` is the only one there, for the only call so far. -/
theorem InLine.loggingIn (h : InLine cfg hdl log s pcs order calls)
    (hw : (pcs w).loggingIn = some hdl) :
    s.connectionIds.lookup hdl = none ∧ (∀ v, v ≠ w → (pcs v).loggingIn ≠ some hdl) ∧
      ∃ token, callsOn hdl calls = [⟨hdl, token, none⟩] ∧
        (pcs w = .opening hdl token ∨
          ∃ cid data, pcs w = .binding hdl cid data ∧ cfg.verify token = some (cid, data)) := by
  have honly (v : Worker) (hv : (pcs v).loggingIn = some hdl) : v = w :=
    Option.some.inj ((h.first v hv).symm.trans (h.first w hw))
  have hothers (v : Worker) (hne : v ≠ w) : (pcs v).loggingIn ≠ some hdl :=
    fun hv => hne (honly v hv)
  generalize hcalls : callsOn hdl calls = cs
  have hlogin := h.login
  rw [hcalls] at hlogin
  cases hlogin with
  | fresh hl hn | bound hl hv hi hn | refused hr hl hn => exact (hn w hw).elim
  | opening v hv hl =>
    have he : v = w := honly v (by rw [hv]; rfl)
    exact ⟨hl, hothers, _, rfl, .inl (he ▸ hv)⟩
  | binding v hv hl hverify =>
    have he : v = w := honly v (by rw [hv]; rfl)
    exact ⟨hl, hothers, _, rfl, .inr ⟨_, _, he ▸ hv, hverify⟩⟩

theorem InLine.workerMessages (h : InLine cfg hdl log s pcs order calls)
    (hstep : WorkerStep cfg me s (pcs w) evs s' pc) (hnodup : order.Nodup)
    (hturn : ∀ call, (pcs w).call pc = some call → call.hdl = hdl →
      oldest hdl pcs order = some w) :
    receivedOn hdl (log ++ evs) =
      (callsOn hdl (calls ++ ((pcs w).call pc).toList)).map Call.msg ++
        heldOn hdl (Function.update pcs w pc) (nextOrder w (pcs w) pc order) ++
        s'.queuedOn hdl := by
  rw [receivedOn_append, receivedOn_eq_nil (by decide) hstep.shows, List.append_nil, h.messages]
  cases hstep.flow hdl with
  | popped hn hm hq hc =>
    rw [callsOn_append_none calls hc, heldOn_pop hn hm, hq]
    simp only [List.append_assoc, List.singleton_append]
  | @called call hc hh hm hn hq =>
    rw [hc, callsOn_append_self calls hh, heldOn_called hnodup (hturn call hc hh) hm hn, hq]
    simp only [List.map_append, List.map_singleton, List.append_assoc, List.singleton_append]
  | unchanged hm hq hc => rw [callsOn_append_of_ne calls hc, heldOn_unchanged hm, hq]

theorem InLine.workerFirst (h : InLine cfg hdl log s pcs order calls)
    (hstep : WorkerStep cfg me s (pcs w) evs s' pc)
    (hturn : ∀ call, (pcs w).call pc = some call → call.hdl = hdl →
      oldest hdl pcs order = some w)
    (v : Worker) (hv : (Function.update pcs w pc v).loggingIn = some hdl) :
    oldest hdl (Function.update pcs w pc) (nextOrder w (pcs w) pc order) = some v := by
  by_cases he : v = w
  · subst he
    rw [Function.update_self] at hv
    have hs := WorkerPc.holds_of_loggingIn hv
    rcases hstep.loggingIn hv with hl | ⟨token, hc⟩
    · exact oldest_self (h.first v hl) hs
    · exact oldest_self (hturn _ hc rfl) hs
  · rw [Function.update_of_ne he] at hv
    exact oldest_of_ne (h.first v hv) he hstep.holds

theorem InLine.workerAddressed (h : InLine cfg hdl log s pcs order calls)
    (hstep : WorkerStep cfg me s (pcs w) evs s' pc) (hk : Kept (log ++ evs) hdl)
    (hc : ClosedFirst log s (pcs w)) (v : Worker)
    (hv : Function.update pcs w pc v = .messaging hdl cid msg) :
    s'.connectionIds.lookup hdl = some cid := by
  by_cases he : v = w
  · subst he
    rw [Function.update_self] at hv
    subst hv
    exact hstep.of_messaging
  · rw [Function.update_of_ne he] at hv
    have hl := h.addressed v cid msg hv
    rw [hstep.lookup_kept hk hc]
    · exact hl
    · intro hw
      rw [(h.loggingIn hw).1] at hl
      cases hl

theorem InLine.workerLoggingIn (h : InLine cfg hdl log s pcs order calls)
    (hstep : WorkerStep cfg me s (pcs w) evs s' pc) (hk : Kept (log ++ evs) hdl)
    (hw : (pcs w).loggingIn = some hdl) :
    LoginState cfg hdl (log ++ evs) s' (Function.update pcs w pc)
      (callsOn hdl calls) := by
  obtain ⟨hl, hothers, token, hcalls, hpc⟩ := h.loggingIn hw
  rw [hcalls]
  have hnone (hp : pc.loggingIn ≠ some hdl) := loggingIn_update_ne hp hothers
  rcases hpc with hpc | ⟨cid, data, hpc, hverify⟩
  · rw [hpc] at hstep
    cases hstep with
    | invalidToken hv =>
      exact .refused (List.mem_append_right _ List.mem_cons_self) hl (hnone nofun)
    | lockedSession c hv hn hr =>
      apply (hk.uncompleted (List.mem_append_right _ ?_)).elim
      exact List.mem_cons_of_mem _ (List.mem_cons_of_mem _ List.mem_cons_self)
    | openSession c hv hn hlocked =>
      refine .binding w (Function.update_self _ _ _) ?_ hv
      rw [Server.updateSessionLocks_connectionIds]
      exact hl
  · rw [hpc] at hstep
    cases hstep with
    | setupConnectionId =>
      refine .bound ?_ hverify (List.forall_mem_nil _) (hnone nofun)
      rw [s.lookup_connectionIds_setup hl, if_pos rfl]

theorem InLine.workerCall (h : InLine cfg hdl log s pcs order calls)
    (hstep : WorkerStep cfg me s (pcs w) evs s' pc) (hw : (pcs w).loggingIn ≠ some hdl)
    (hc : (pcs w).call pc = some call) (hh : call.hdl = hdl)
    (hturn : oldest hdl pcs order = some w)
    (hrefused : call.id = none → .closing hdl .invalidJwt ∉ log) :
    LoginState cfg hdl (log ++ evs) s' (Function.update pcs w pc)
      (callsOn hdl calls ++ [call]) := by
  subst hh
  have hothers (v : Worker) : (pcs v).loggingIn ≠ some call.hdl := by
    intro hv
    have he : v = w := Option.some.inj ((h.first v hv).symm.trans hturn)
    exact hw (he ▸ hv)
  have hlogin := h.login
  generalize callsOn call.hdl calls = cs at hlogin ⊢
  obtain ⟨hs, ⟨hid, hpc, hl⟩ | ⟨cid, hid, hpc, hpc'⟩⟩ := hstep.call_cases hc
  · have hcall : call = ⟨call.hdl, call.msg, none⟩ := by
      rw [← hid]
    subst hs hpc
    cases hlogin with
    | fresh hl' hn =>
      rw [hcall]
      exact .opening w (Function.update_self _ _ _) hl
    | opening v hv hl' | binding v hv hl' hverify =>
      apply (hothers v ?_).elim
      rw [hv]
      rfl
    | bound hl' hv hi hn =>
      rw [hl] at hl'
      cases hl'
    | refused hr hl' hn => exact (hrefused hid hr).elim
  · have hl := h.addressed w cid call.msg hpc
    have hp : pc.loggingIn ≠ some call.hdl := by
      rw [hpc']
      exact nofun
    subst hs
    have hmoved : LoginState cfg call.hdl (log ++ evs) s' (Function.update pcs w pc) cs :=
      hlogin.move rfl hw hp
    cases hmoved with
    | bound hl' hv hi hn =>
      rw [hl] at hl'
      cases hl'
      refine .bound hl hv ?_ hn
      exact List.forall_mem_append.2 ⟨hi, List.forall_mem_singleton.2 hid⟩
    | fresh hl' hn | opening v hv hl' | binding v hv hl' hverify | refused hr hl' hn =>
      rw [hl] at hl'
      cases hl'

/-- A call for a message of the handle is for the oldest one, and a login is no second try after
an invalid token. -/
structure InTurn (hdl : T.Hdl) (log : List (Event T)) (pcs : Worker → WorkerPc T)
    (order : List Worker) (w : Worker) (pc : WorkerPc T) : Prop where
  oldest : ∀ call, (pcs w).call pc = some call → call.hdl = hdl →
    oldest hdl pcs order = some w
  unrefused : ∀ call, (pcs w).call pc = some call → call.hdl = hdl → call.id = none →
    .closing hdl .invalidJwt ∉ log

omit [DecidableEq Worker] in
theorem InTurn.idle (h : (pcs w).call pc = none) : InTurn hdl log pcs order w pc := by
  constructor <;> intro call hc <;> rw [h] at hc <;> cases hc

omit [DecidableEq Worker] in
theorem InTurn.call (ho : WebGameServer.oldest hdl pcs order = some w)
    (hr : .closing hdl .invalidJwt ∉ log) : InTurn hdl log pcs order w pc :=
  ⟨fun _ _ _ => ho, fun _ _ _ _ => hr⟩

theorem InLine.worker (h : InLine cfg hdl log s pcs order calls)
    (hstep : WorkerStep cfg me s (pcs w) evs s' pc) (hk : Kept (log ++ evs) hdl)
    (hc : ClosedFirst log s (pcs w)) (hnodup : order.Nodup)
    (hturn : InTurn hdl log pcs order w pc) :
    InLine cfg hdl (log ++ evs) s' (Function.update pcs w pc) (nextOrder w (pcs w) pc order)
      (calls ++ ((pcs w).call pc).toList) where
  messages := h.workerMessages hstep hnodup hturn.oldest
  first := h.workerFirst hstep hturn.oldest
  addressed v _ _ := h.workerAddressed hstep hk hc v
  login := by
    by_cases hw : (pcs w).loggingIn = some hdl
    · rw [callsOn_append_none calls (WorkerPc.call_of_loggingIn hw pc)]
      exact h.workerLoggingIn hstep hk hw
    · by_cases hcall : ∃ call, (pcs w).call pc = some call ∧ call.hdl = hdl
      · obtain ⟨call, hcall, hh⟩ := hcall
        rw [hcall, callsOn_append_self calls hh]
        exact h.workerCall hstep hw hcall hh (hturn.oldest call hcall hh)
          (hturn.unrefused call hcall hh)
      · have hother (call : Call T) (hc : (pcs w).call pc = some call) : call.hdl ≠ hdl :=
          fun hh => hcall ⟨call, hc, hh⟩
        rw [callsOn_append_of_ne calls hother]
        apply h.login.move (hstep.lookup_kept hk hc hw) hw
        intro hp
        rcases hstep.loggingIn hp with hl | ⟨token, hc'⟩
        · exact hw hl
        · exact hother _ hc' rfl

omit [DecidableEq Worker] in
theorem InLine.outer (h : InLine cfg hdl log s pcs order calls)
    (hl : s'.connectionIds = s.connectionIds)
    (hq : s'.queuedOn hdl = s.queuedOn hdl ++ receivedOn hdl evs) :
    InLine cfg hdl (log ++ evs) s' pcs order calls where
  messages := by
    rw [receivedOn_append, h.messages, hq, List.append_assoc _ (s.queuedOn hdl)]
  first := h.first
  addressed v cid msg hv := by
    rw [hl]
    exact h.addressed v cid msg hv
  login := by
    have hlogin := h.login
    generalize callsOn hdl calls = cs at hlogin ⊢
    cases hlogin with
    | fresh hl' hn => exact .fresh (hl ▸ hl') hn
    | opening v hv hl' => exact .opening v hv (hl ▸ hl')
    | binding v hv hl' hverify => exact .binding v hv (hl ▸ hl') hverify
    | bound hl' hv hi hn => exact .bound (hl ▸ hl') hv hi hn
    | refused hr hl' hn => exact .refused (List.mem_append_left _ hr) (hl ▸ hl') hn

end Connection

section Outer

variable {T : Traits} {Thread : Type} {cfg : Config T} {me : Thread} {s s' : Server T Thread}
  {evs : List (Event T)}

theorem queuedOn_push (s : Server T Thread) (hdl : T.Hdl) (a : Action T) :
    (s.push a).queuedOn hdl = s.queuedOn hdl ++ (a.message hdl).toList := by
  rw [Server.queuedOn, Server.push, List.filterMap_append, List.filterMap_cons]
  cases a.message hdl <;> rfl

theorem TransportStep.queuedOn (h : TransportStep s evs s') (hdl : T.Hdl) :
    s'.queuedOn hdl = s.queuedOn hdl ++ receivedOn hdl evs := by
  cases h with
  | onOpen a hr | onClose a =>
    rw [queuedOn_push, Action.message_none (fun ht => by cases ht)]
    rfl
  | onOpenStopped a hr => exact (List.append_nil _).symm
  | onMessage a msg =>
    rw [queuedOn_push]
    simp only [Action.message, true_and, receivedOn, List.filterMap_cons, Event.message]
    split <;> rfl

theorem CallerStep.queuedOn (h : CallerStep cfg me s pc evs s' pc') (hdl : T.Hdl) :
    s'.queuedOn hdl = s.queuedOn hdl ++ receivedOn hdl evs := by
  rw [receivedOn_eq_nil (by decide) h.shows, List.append_nil]
  cases h with
  | completeLocked c sid result hn hl | completeSession c sid result hn hl =>
    simp only [Server.queuedOn, Server.updateSessionLocks_actions]
  | closePlayer | pushMessage =>
    rw [queuedOn_push, Action.message_none (fun ht => by cases ht)]
    exact List.append_nil _
  | _ => rfl

theorem ControlStep.queuedOn (h : ControlStep s pc evs s' pc')
    (hn : ∀ hdls, .shutdown hdls ∉ evs) (hdl : T.Hdl) :
    s'.connectionIds = s.connectionIds ∧
      s'.queuedOn hdl = s.queuedOn hdl ++ receivedOn hdl evs := by
  cases h with
  | clearAll hl => exact (hn _ (List.mem_cons_of_mem _ List.mem_cons_self)).elim
  | run hr | stop hr | notifyAll => exact ⟨rfl, (List.append_nil _).symm⟩

end Outer

section Run

variable {T : Traits} {Worker Caller : Type} [DecidableEq Worker] [DecidableEq Caller]
  {cfg : Config T} {o o' : Observed T Worker Caller} {hdl : T.Hdl}

/-- The section of `stop` that clears the queue is not run, and each call for a message of the
handle is made in turn. -/
structure Serial (hdl : T.Hdl) (o : Observed T Worker Caller) (evs : List (Event T))
    (o' : Observed T Worker Caller) : Prop where
  running : ∀ hdls, .shutdown hdls ∉ evs
  inTurn : ∀ w,
    InTurn hdl o.system.log o.system.worker o.order w (o'.system.worker w)

/-- The first message of the connection is passed to `open_session`, and the later ones are
passed to `m_handle_message` with the id of its token, in the order of their receipt. -/
structure MessagesInOrder (cfg : Config T) (o : Observed T Worker Caller) (hdl : T.Hdl) : Prop where
  messages : receivedOn hdl o.system.log = (callsOn hdl o.calls).map Call.msg ++
    heldOn hdl o.system.worker o.order ++ o.system.server.queuedOn hdl
  login : ∀ first later, callsOn hdl o.calls = first :: later → first.id = none
  handled : ∀ first later, callsOn hdl o.calls = first :: later → ∀ call ∈ later,
    ∃ cid data, cfg.verify first.msg = some (cid, data) ∧ call.id = some cid

structure Ordered (cfg : Config T) (hdl : T.Hdl) (o : Observed T Worker Caller) : Prop where
  nodup : o.order.Nodup
  closedFirst : ∀ w, ClosedFirst o.system.log o.system.server (o.system.worker w)
  inLine : Kept o.system.log hdl →
    InLine cfg hdl o.system.log o.system.server o.system.worker o.order o.calls

theorem Kept.of_append (h : Kept (log ++ evs) hdl) : Kept log hdl where
  unclosed hm := h.unclosed (List.mem_append_left _ hm)
  unreplaced hm := h.unreplaced (List.mem_append_left _ hm)
  uncompleted hm := h.uncompleted (List.mem_append_left _ hm)

theorem Ordered.step (ho : Ordered cfg hdl o) (h : ObservedStep cfg o evs o')
    (hs : Serial hdl o evs o') : Ordered cfg hdl o' := by
  cases h with
  | transport h =>
    refine ⟨ho.nodup, fun w => h.closedFirst (ho.closedFirst w), fun hk => ?_⟩
    exact (ho.inLine hk.of_append).outer h.sameBindings.connectionIds (h.queuedOn hdl)
  | worker w h =>
    have hturn := hs.inTurn w
    simp only [Function.update_self] at hturn
    constructor
    · exact nodup_nextOrder ho.nodup _ _ _
    · intro v
      by_cases hv : v = w
      · subst hv
        simp only [Function.update_self]
        exact h.closedFirst (ho.closedFirst v)
      · simp only [Function.update_of_ne hv]
        exact h.closedFirst_other (ho.closedFirst v)
    · intro hk
      exact (ho.inLine hk.of_append).worker h hk (ho.closedFirst w) ho.nodup hturn
  | caller c h =>
    refine ⟨ho.nodup, fun w => h.closedFirst (ho.closedFirst w), fun hk => ?_⟩
    exact (ho.inLine hk.of_append).outer h.sameBindings.connectionIds (h.queuedOn hdl)
  | control h =>
    refine ⟨ho.nodup, fun w => h.closedFirst (ho.closedFirst w), fun hk => ?_⟩
    obtain ⟨hl, hq⟩ := h.queuedOn hs.running hdl
    exact (ho.inLine hk.of_append).outer hl hq

omit [DecidableEq Worker] [DecidableEq Caller] in
theorem InLine.start (t : Int) (hdl : T.Hdl) :
    InLine cfg hdl [] (System.start t : System T Worker Caller).server
      (fun _ : Worker => .testing) [] [] := by
  refine ⟨rfl, ?_, ?_, LoginState.fresh rfl ?_⟩
  · intro w hw
    cases hw
  · intro w cid msg hw
    cases hw
  · intro w hw
    cases hw

theorem ordered_invariant : ((observed cfg).restrict (Serial hdl)).Invariant
    fun o : Observed T Worker Caller => Ordered cfg hdl o where
  init := by
    intro o hinit
    obtain ⟨t, rfl⟩ := hinit
    refine ⟨List.nodup_nil, fun w => ⟨?_, ?_⟩, fun _ => InLine.start t hdl⟩
    · intro a hm
      cases hm
    · intro hdl hu
      cases hu
  step _ ho h := ho.step h.1 h.2

omit [DecidableEq Worker] [DecidableEq Caller] in
theorem InLine.messagesInOrder
    (h : InLine cfg hdl o.system.log o.system.server o.system.worker o.order o.calls) :
    MessagesInOrder cfg o hdl := by
  have hlogin := h.login
  constructor
  · exact h.messages
  · intro first later he
    rw [he] at hlogin
    cases hlogin <;> rfl
  · intro first later he call hm
    rw [he] at hlogin
    cases hlogin with
    | bound hl hv hi hn => exact ⟨_, _, hv, hi call hm⟩
    | opening v hv hl | binding v hv hl hverify | refused hr hl hn => cases hm

/-- Any number of workers keep the order of the messages of a connection, as long as no call for
one overtakes an earlier one. -/
theorem messages_in_order (h : ((observed cfg).restrict (Serial hdl)).Reachable o)
    (hk : Kept o.system.log hdl) : MessagesInOrder cfg o hdl :=
  ((ordered_invariant.reachable h).inLine hk).messagesInOrder

end Run

/-- Two workers have popped the token and the message after it: both look up the handle before
the login binds it, and the message is taken for a token. -/
theorem message_taken_for_token :
    ∃ o : Observed natTraits Bool Unit, (observed natConfig).Reachable o ∧
      Kept o.system.log 5 ∧ .closing 5 .invalidJwt ∈ o.system.log ∧
      ¬ MessagesInOrder natConfig o 5 := by
  have h0 : (observed natConfig).Reachable
      (⟨.start 0, [], []⟩ : Observed natTraits Bool Unit) := .init ⟨0, rfl⟩
  have h1 := h0.step (.control (.run rfl))
  have h2 := h1.step (.transport (.onMessage (5 : Nat) "ada"))
  have h3 := h2.step (.transport (.onMessage (5 : Nat) "move"))
  have h4 := h3.step (.worker true (.enter rfl))
  have h5 := h4.step (.worker true (.pop rfl))
  have h6 := h5.step (.worker false (.enter rfl))
  have h7 := h6.step (.worker false (.pop rfl))
  have h8 := h7.step (.worker true (.messageUnbound rfl rfl))
  have h9 := h8.step (.worker false (.messageUnbound rfl rfl))
  have h10 := h9.step (.worker false (.invalidToken rfl))
  refine ⟨_, h10, ⟨by simp, by simp, by simp⟩, by simp, fun hm => ?_⟩
  obtain ⟨cid, data, -, hid⟩ := hm.handled _ _ rfl _ (List.mem_singleton.2 rfl)
  cases hid

/-- A login on one worker and a message handled on another one. -/
theorem messages_in_order_two :
    ∃ o : Observed natTraits Bool Unit, (callsOn (T := natTraits) 5 o.calls).length = 2 ∧
      MessagesInOrder natConfig o 5 := by
  have h0 : ((observed natConfig).restrict (Serial 5)).Reachable
      (⟨.start 0, [], []⟩ : Observed natTraits Bool Unit) := .init ⟨0, rfl⟩
  have h1 := h0.step ⟨.control (.run rfl), by simp, fun w => .idle (by cases w <;> rfl)⟩
  have h2 := h1.step
    ⟨.transport (.onMessage (5 : Nat) "ada"), by simp, fun w => .idle (by cases w <;> rfl)⟩
  have h3 := h2.step ⟨.worker true (.enter rfl), by simp, fun w => .idle (by cases w <;> rfl)⟩
  have h4 := h3.step ⟨.worker true (.pop rfl), by simp, fun w => .idle (by cases w <;> rfl)⟩
  have h5 := h4.step ⟨.worker true (.messageUnbound rfl rfl), by simp, fun w => by
    cases w
    · exact .idle rfl
    · exact .call rfl (by simp)⟩
  have h6 := h5.step
    ⟨.worker true (.openSession ⟨0, 0⟩ rfl rfl rfl), by simp, fun w => .idle (by cases w <;> rfl)⟩
  have h7 := h6.step
    ⟨.worker true .setupConnectionId, by simp, fun w => .idle (by cases w <;> rfl)⟩
  have h8 := h7.step
    ⟨.transport (.onMessage (5 : Nat) "move"), by simp, fun w => .idle (by cases w <;> rfl)⟩
  have h9 := h8.step ⟨.worker false (.enter rfl), by simp, fun w => .idle (by cases w <;> rfl)⟩
  have h10 := h9.step ⟨.worker false (.pop rfl), by simp, fun w => .idle (by cases w <;> rfl)⟩
  have h11 := h10.step
    ⟨.worker false (.messageBound rfl rfl), by simp, fun w => .idle (by cases w <;> rfl)⟩
  have h12 := h11.step ⟨.worker false .handleMessage, by simp, fun w => by
    cases w
    · exact .call rfl (by simp)
    · exact .idle rfl⟩
  refine ⟨_, rfl, messages_in_order h12 ⟨by simp, ?_, by simp⟩⟩
  simp [Server.duplicateOf, System.start]

end WebGameServer
