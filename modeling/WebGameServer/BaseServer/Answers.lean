import WebGameServer.BaseServer.Liveness

namespace WebGameServer
set_option autoImplicit true

/-- A message of a connection as `on_message` puts it into the queue. -/
abbrev Action.inMessage {T : Traits} (hdl : T.Hdl) (msg : String) : Action T :=
  { type := .inMessage, hdl := hdl, msg := msg }

section Local

variable {T : Traits} {Thread : Type} {cfg : Config T} {me : Thread} {s s' : Server T Thread}
  {During During' : (Server T Thread → Prop) → Prop} {hdl : T.Hdl} {msg : String}

/-- The connection has no id yet, and the message is a token for a session that is not completed. -/
structure Admits (cfg : Config T) (During : (Server T Thread → Prop) → Prop) (hdl : T.Hdl)
    (msg : String) (cid : CombinedId T) (data : T.Json) : Prop where
  unbound : During fun s => s.connectionIds.lookup hdl = none
  verified : cfg.verify msg = some (cid, data)
  unlocked : ∃ c, During fun s =>
    (s.updateSessionLocks cfg.sessionReleaseTime c).isLocked cid.session = false

/-- The answers to a message of a connection, by what the server is in `During` the work on it: the
token is refused, the stored result of its session is sent, the session is opened, or the message
is passed on under the id of the connection. -/
inductive Answers (cfg : Config T) (During : (Server T Thread → Prop) → Prop) (hdl : T.Hdl)
    (msg : String) : List (Event T) → Prop where
  | refused : During (fun s => s.connectionIds.lookup hdl = none) → cfg.verify msg = none →
      Answers cfg During hdl msg [.closing hdl .invalidJwt]
  | completed (c : ClockReadings) : During (fun s => s.connectionIds.lookup hdl = none) →
      cfg.verify msg = some (cid, data) →
      During (fun s => (s.updateSessionLocks cfg.sessionReleaseTime c).lockedSessions.at?
        cid.session = some result) →
      str = cfg.getResultStr ⟨cid.player, result.session⟩ result.data →
      Answers cfg During hdl msg
        [.result cid str, .sent hdl str (some cid), .closing hdl .sessionComplete]
  | opened : Admits cfg During hdl msg cid data → Answers cfg During hdl msg [.handleOpen cid data]
  | passed : During (fun s => s.connectionIds.lookup hdl = some cid) →
      Answers cfg During hdl msg [.handleMessage cid msg]

inductive WorkerPc.On (cfg : Config T) (During : (Server T Thread → Prop) → Prop) (hdl : T.Hdl)
    (msg : String) : WorkerPc T → Prop where
  | handling : WorkerPc.On cfg During hdl msg (.handling (.inMessage hdl msg))
  | messaging : During (fun s => s.connectionIds.lookup hdl = some cid) →
      WorkerPc.On cfg During hdl msg (.messaging hdl cid msg)
  | opening : During (fun s => s.connectionIds.lookup hdl = none) →
      WorkerPc.On cfg During hdl msg (.opening hdl msg)
  | binding : Admits cfg During hdl msg cid data →
      WorkerPc.On cfg During hdl msg (.binding hdl cid data)
  | entering : Admits cfg During hdl msg cid data →
      WorkerPc.On cfg During hdl msg (.entering hdl cid data)

theorem Admits.mono (h : Admits cfg During hdl msg cid data) (hD : ∀ P, During P → During' P) :
    Admits cfg During' hdl msg cid data where
  unbound := hD _ h.unbound
  verified := h.verified
  unlocked := h.unlocked.imp fun _ => hD _

theorem WorkerPc.On.mono {pc : WorkerPc T} (h : pc.On cfg During hdl msg)
    (hD : ∀ P, During P → During' P) : pc.On cfg During' hdl msg := by
  cases h with
  | handling => exact .handling
  | messaging hb => exact .messaging (hD _ hb)
  | opening hu => exact .opening (hD _ hu)
  | binding ha => exact .binding (ha.mono hD)
  | entering ha => exact .entering (ha.mono hD)

theorem WorkerPc.On.busy {pc : WorkerPc T} (h : pc.On cfg During hdl msg) : pc.Busy := by
  cases h <;> exact Nat.lt_of_sub_eq_succ rfl

theorem WorkerStep.answers (h : WorkerStep cfg me s pc evs s' pc')
    (ho : pc.On cfg During hdl msg) (hD : ∀ P, P s → During P) :
    pc' = .testing ∧ Answers cfg During hdl msg evs ∨ pc'.On cfg During hdl msg := by
  cases ho with
  | handling =>
    cases h with
    | messageUnbound _ hu => exact .inr (.opening (hD _ hu))
    | messageBound _ hb => exact .inr (.messaging (hD _ hb))
    | subscribe ht | unsubscribeUnbound ht | unsubscribeBound ht | outMessage ht
    | closeConnection ht => cases ht
  | messaging hb =>
    cases h with
    | handleMessage => exact .inl ⟨rfl, .passed hb⟩
  | opening hu =>
    cases h with
    | invalidToken hv => exact .inl ⟨rfl, .refused hu hv⟩
    | lockedSession c hv hn hr => exact .inl ⟨rfl, .completed c hu hv (hD _ hr) rfl⟩
    | openSession c hv hn hl => exact .inr (.binding ⟨hu, hv, c, hD _ hl⟩)
  | binding ha =>
    cases h with
    | setupConnectionId => exact .inr (.entering ha)
  | entering ha =>
    cases h with
    | handleOpen => exact .inl ⟨rfl, .opened ha⟩

theorem WorkerPc.distance_le (pc : WorkerPc T) : pc.distance ≤ 6 := by
  cases pc <;> simp only [distance] <;> decide

theorem WorkerStep.not_busy (h : WorkerStep cfg me s pc evs s' (.handling a)) : ¬ pc.Busy := by
  intro hb
  rcases h.busy_next hb with he | ⟨-, hlt⟩
  · cases he
  · exact pc.distance_le.not_gt hlt

end Local

section Executions

variable {T : Traits} {Worker Caller : Type} [DecidableEq Worker] [DecidableEq Caller]
  {cfg : Config T} {x : ServerExecution cfg Worker Caller} {w w' : Worker} {hdl : T.Hdl}
  {msg : String} {k m : Nat}

/-- The server is so in one of the states `k + 1` to `m`. -/
def ServerExecution.During (x : ServerExecution cfg Worker Caller) (k m : Nat)
    (P : Server T (Worker ⊕ Caller) → Prop) : Prop :=
  ∃ i, k < i ∧ i ≤ m ∧ P (x.state i).server

/-- The worker takes the message from the queue in the step `k`, works on nothing else until the
step `m`, and answers the message in this step. -/
structure ServerExecution.AnsweredBy (x : ServerExecution cfg Worker Caller) (w : Worker)
    (hdl : T.Hdl) (msg : String) (k m : Nat) : Prop where
  before : k < m
  idle : ¬ ((x.state k).worker w).Busy
  popped : (x.state (k + 1)).popped = (x.state k).popped ++ [.inMessage hdl msg]
  taken : (x.state (k + 1)).worker w = .handling (.inMessage hdl msg)
  busy : ∀ i, k < i → i ≤ m → ((x.state i).worker w).Busy
  done : (x.state (m + 1)).worker w = .testing
  answer : ∃ evs, (x.state (m + 1)).log = (x.state m).log ++ evs ∧
    Answers cfg (x.During k m) hdl msg evs

theorem Step.pops {σ σ' : System T Worker Caller} (h : Step cfg σ evs σ') (hn : .stopping ∉ evs) :
    σ'.popped = σ.popped ∨
      ∃ w a, σ'.popped = σ.popped ++ [a] ∧ ¬ (σ.worker w).Busy ∧ σ'.worker w = .handling a := by
  have quiet (hp : evs.filterMap Event.popped = []) : σ'.popped = σ.popped := by
    rw [System.popped, h.log, List.filterMap_append, hp, List.append_nil, System.popped]
  cases h with
  | transport h => exact .inl (quiet h.appends.2.1)
  | worker w h =>
    rcases h.advances.2 with ⟨a, rest, -, -, hp, rfl⟩ | ⟨-, hp, -⟩
    · refine .inr ⟨w, a, ?_, h.not_busy, Function.update_self _ _ _⟩
      rw [System.popped, List.filterMap_append, hp, System.popped]
    · exact .inl (quiet hp)
  | caller c h => exact .inl (quiet h.appends.2.1)
  | control h => exact .inl (quiet (h.appends hn).2.1)

theorem action_handled (hfree : x.Often fun σ => σ.server.sessionLock = none)
    (hfair : x.Fair (WorkerActs cfg w)) {n : Nat} (hrun : (x.state n).server.isRunning = true)
    (hw : (x.state n).worker w ≠ .returned)
    (hsplit : (x.state n).server.actions = pre ++ a :: post) :
    ∃ k w', n ≤ k ∧ (x.state k).popped = (x.state n).popped ++ pre ∧
      (x.state (k + 1)).popped = (x.state k).popped ++ [a] ∧
      ¬ ((x.state k).worker w').Busy ∧ (x.state (k + 1)).worker w' = .handling a := by
  have hL : (x.state n).popped ++ pre ++ [a] <+:
      (x.state n).popped ++ (x.state n).server.actions := by
    rw [hsplit, List.append_assoc]
    apply (List.prefix_append_right_inj _).2
    exact ⟨post, by rw [List.append_assoc, List.singleton_append]⟩
  obtain ⟨m, hm, hpopped⟩ := actions_popped hfree hfair _ n ⟨hrun, hw, hL⟩
  have hn : ¬ (x.state n).popped ++ pre ++ [a] <+: (x.state n).popped := by
    intro h
    have hle := h.length_le
    simp only [List.length_append, List.length_singleton] at hle
    omega
  obtain ⟨k, evs, hk, -, hnot, hnow, hstep⟩ := x.exists_step
    (Q := fun σ => (x.state n).popped ++ pre ++ [a] <+: σ.popped) hm hn hpopped
  rcases hstep.1.pops hstep.2 with he | ⟨w', a', he, hb, hw'⟩
  · rw [he] at hnow
    exact (hnot hnow).elim
  · rw [he] at hnow
    have heq := (List.prefix_concat_iff.1 hnow).resolve_right hnot
    obtain ⟨hpre, ha⟩ := List.append_inj' heq rfl
    cases ha
    exact ⟨k, w', hk, hpre.symm, he, hb, hw'⟩

theorem ServerExecution.During.mono (h : x.During k m P) (hm : m ≤ m') : x.During k m' P := by
  obtain ⟨i, hk, hi, hP⟩ := h
  exact ⟨i, hk, hi.trans hm, hP⟩

theorem popped_answered (hfree : x.Often fun σ => σ.server.sessionLock = none)
    (hfair : x.Fair (WorkerActs cfg w)) (hidle : ¬ ((x.state k).worker w).Busy)
    (hpopped : (x.state (k + 1)).popped = (x.state k).popped ++ [.inMessage hdl msg])
    (htaken : (x.state (k + 1)).worker w = .handling (.inMessage hdl msg)) :
    ∃ m, x.AnsweredBy w hdl msg k m := by
  have hbusy : ((x.state (k + 1)).worker w).Busy := by
    rw [htaken]
    exact Nat.lt_of_sub_eq_succ rfl
  obtain ⟨n, hn, htesting⟩ := worker_returns hfree hfair (k + 1) hbusy
  by_contra hnone
  -- Until its answer the worker is on the message, which `n` contradicts.
  have on : (∀ i, k < i → i ≤ n → ((x.state i).worker w).Busy) ∧
      ((x.state n).worker w).On cfg (x.During k n) hdl msg := by
    clear htesting
    induction n, hn using Nat.le_induction with
    | base =>
      constructor
      · intro i hk hi
        cases Nat.le_antisymm hk hi
        exact hbusy
      · rw [htaken]
        exact .handling
    | succ n hn ih =>
      obtain ⟨hb, ho⟩ := ih
      have extend (h : ((x.state (n + 1)).worker w).On cfg (x.During k n) hdl msg) :
          (∀ i, k < i → i ≤ n + 1 → ((x.state i).worker w).Busy) ∧
            ((x.state (n + 1)).worker w).On cfg (x.During k (n + 1)) hdl msg := by
        refine ⟨fun i hk hi => ?_, h.mono fun P hP => hP.mono (Nat.le_succ n)⟩
        rcases Nat.le_succ_iff.1 hi with hi | rfl
        · exact hb i hk hi
        · exact h.busy
      rcases x.next n with he | ⟨evs, hstep, -⟩
      · exact extend (he ▸ ho)
      · rcases hstep.worker_eq w with hacts | he
        · obtain ⟨evs, s, pc, hw, hs⟩ := hacts
          have hpc : (x.state (n + 1)).worker w = pc := by
            rw [hs]
            exact Function.update_self _ _ _
          rcases hw.answers ho fun P hP => ⟨n, hn, le_refl n, hP⟩ with ⟨rfl, ha⟩ | ho'
          · exact (hnone ⟨n, hn, hidle, hpopped, htaken, hb, hpc, evs, by rw [hs], ha⟩).elim
          · exact extend (hpc ▸ ho')
        · exact extend (he ▸ ho)
  have hb := on.2.busy
  rw [htesting] at hb
  exact absurd hb (lt_irrefl 1)

theorem popped_grows (x : ServerExecution cfg Worker Caller) (hk : k ≤ m) :
    (x.state k).popped <+: (x.state m).popped := by
  induction m, hk using Nat.le_induction with
  | base => exact List.prefix_refl _
  | succ m hk ih =>
    rcases x.next m with he | ⟨evs, hstep, hn⟩
    · rw [he]
      exact ih
    · exact ih.trans (hstep.appends hn).2.1

theorem message_answered (hfree : x.Often fun σ => σ.server.sessionLock = none)
    (hworkers : ∀ w, x.Fair (WorkerActs cfg w)) {n : Nat}
    (hrun : (x.state n).server.isRunning = true) (hw : (x.state n).worker w ≠ .returned)
    (hsplit : (x.state n).server.actions = pre ++ .inMessage hdl msg :: post) :
    ∃ w' k m, n ≤ k ∧ (x.state k).popped = (x.state n).popped ++ pre ∧
      x.AnsweredBy w' hdl msg k m := by
  obtain ⟨k, w', hk, hpre, hpopped, hidle, htaken⟩ :=
    action_handled hfree (hworkers w) hrun hw hsplit
  obtain ⟨m, hanswered⟩ := popped_answered hfree (hworkers w') hidle hpopped htaken
  exact ⟨w', k, m, hk, hpre, hanswered⟩

theorem returns_unique (hb : ((x.state m).worker w).Busy)
    (ht : (x.state (m + 1)).worker w = .testing) (hb' : ((x.state m).worker w').Busy)
    (ht' : (x.state (m + 1)).worker w' = .testing) : w = w' := by
  have moved {v : Worker} (hb : ((x.state m).worker v).Busy)
      (ht : (x.state (m + 1)).worker v = .testing) :
      (x.state (m + 1)).worker v ≠ (x.state m).worker v := by
    intro he
    rw [← he, ht] at hb
    exact lt_irrefl 1 hb
  by_contra hne
  rcases x.next m with he | ⟨evs, hstep, -⟩
  · exact moved hb ht (by rw [he])
  · rcases hstep.worker_eq w with ⟨evs, s, pc, -, hs⟩ | he
    · apply moved hb' ht'
      rw [hs]
      exact Function.update_of_ne (Ne.symm hne) _ _
    · exact moved hb ht he

theorem ServerExecution.AnsweredBy.unique (h : x.AnsweredBy w hdl msg k m)
    (h' : x.AnsweredBy w' hdl' msg' k' m) : k = k' := by
  obtain rfl :=
    returns_unique (h.busy m h.before le_rfl) h.done (h'.busy m h'.before le_rfl) h'.done
  rcases Nat.lt_trichotomy k k' with hlt | he | hlt
  · exact (h'.idle (h.busy k' hlt h'.before.le)).elim
  · exact he
  · exact (h.idle (h'.busy k hlt h.before.le)).elim

/-- No action is left behind and no thread hangs, if the scheduler is fair to the workers and to
the calls that have begun: `m_session_lock` is free again and again, a worker gets through with what
it has popped, and as long as the server is running and one worker is left, what is in the queue is
popped in order and each message in it gets an answer of its own. -/
theorem actions_handled (hworkers : ∀ w, x.Fair (WorkerActs cfg w))
    (hcallers : ∀ c, x.Fair (CallerActs cfg c)) :
    (x.Often fun σ => σ.server.sessionLock = none) ∧
    (∀ n w a, (x.state n).worker w = .handling a →
      ∃ m, n ≤ m ∧ (x.state m).worker w = .testing) ∧
    (∀ n w, (x.state n).server.isRunning = true → (x.state n).worker w ≠ .returned →
      (∃ m, n ≤ m ∧
        (x.state n).popped ++ (x.state n).server.actions <+: (x.state m).popped) ∧
      ∀ pre hdl msg post, (x.state n).server.actions = pre ++ .inMessage hdl msg :: post →
        ∃ w' k m, n ≤ k ∧ (x.state k).popped = (x.state n).popped ++ pre ∧
          x.AnsweredBy w' hdl msg k m) ∧
    ∀ w w' hdl hdl' msg msg' k k' m, x.AnsweredBy w hdl msg k m →
      x.AnsweredBy w' hdl' msg' k' m → k = k' := by
  have hfree := lock_released hworkers hcallers
  refine ⟨hfree, fun n w a hw => ?_, fun n w hrun hw => ⟨?_, fun pre hdl msg post hsplit => ?_⟩, ?_⟩
  · apply worker_returns hfree (hworkers w) n
    rw [hw]
    exact Nat.lt_of_sub_eq_succ rfl
  · exact actions_popped hfree (hworkers w) _ n ⟨hrun, hw, List.prefix_refl _⟩
  · exact message_answered hfree hworkers hrun hw hsplit
  · intro w w' hdl hdl' msg msg' k k' m h h'
    exact h.unique h'

end Executions

/-- Ada logs in to a server with one worker and sends a message. -/
theorem actions_handled_ada :
    ∃ (x : ServerExecution natConfig Unit Unit) (n : Nat),
      (x.state n).server.actions = [.inMessage (5 : Nat) "ada", .inMessage (5 : Nat) "hi"] ∧
      ∃ k m k' m', k < k' ∧ x.AnsweredBy () (5 : Nat) "ada" k m ∧
        x.AnsweredBy () (5 : Nat) "hi" k' m' := by
  have r1 : ((baseServer natConfig).restrict NoStop).Run
      (System.start 0 : System natTraits Unit Unit) _ _ :=
    .cons ⟨.control (.run rfl), by simp [NoStop]⟩ .nil
  have r2 := r1.snoc ⟨.transport (.onMessage (5 : Nat) "ada"), by simp [NoStop]⟩
  have r3 := r2.snoc ⟨.transport (.onMessage (5 : Nat) "hi"), by simp [NoStop]⟩
  have hs := r3.next ⟨.worker () (.enter rfl), by simp [NoStop]⟩
  have q1 := (r3.snoc hs).rest.snoc ⟨.worker () (.pop rfl), by simp [NoStop]⟩
  have q2 := q1.snoc ⟨.worker () (.messageUnbound rfl rfl), by simp [NoStop]⟩
  have q3 := q2.snoc ⟨.worker () (.openSession ⟨0, 0⟩ rfl rfl rfl), by simp [NoStop]⟩
  have q4 := q3.snoc ⟨.worker () .setupConnectionId, by simp [NoStop]⟩
  have q5 := q4.snoc ⟨.worker () .handleOpen, by simp [NoStop]⟩
  have q6 := q5.snoc ⟨.worker () (.enter rfl), by simp [NoStop]⟩
  have q7 := q6.snoc ⟨.worker () (.pop rfl), by simp [NoStop]⟩
  have q8 := q7.snoc ⟨.worker () (.messageBound rfl rfl), by simp [NoStop]⟩
  have q9 := q8.snoc ⟨.worker () .handleMessage, by simp [NoStop]⟩
  have q10 := q9.snoc ⟨.worker () (.enter rfl), by simp [NoStop]⟩
  have q11 := q10.snoc ⟨.worker () (.wait rfl), by simp [NoStop]⟩
  obtain ⟨x, n, N, hn, -, hrest⟩ := r3.lasso ⟨0, rfl⟩ hs q11 (.inl rfl) (.inl rfl)
  have hlast {m : Nat} (hm : N ≤ m) := (hrest m hm).elim And.left And.left
  have hworkers (w : Unit) : x.Fair (WorkerActs natConfig w) := by
    apply Execution.Fair.of_disabled (n := N)
    rintro m hm ⟨σ', evs, s, pc, h, -⟩
    rw [hlast hm] at h
    cases h with
    | wakeStopped hr => cases hr
    | wakePop hr ha => cases ha
  have hcallers (c : Unit) : x.Fair (CallerActs natConfig c) := by
    apply Execution.Fair.of_disabled (n := N)
    rintro m hm ⟨σ', hb, -⟩
    rw [hlast hm] at hb
    exact hb rfl
  have hactions : (x.state n).server.actions =
      [.inMessage (5 : Nat) "ada", .inMessage (5 : Nat) "hi"] := by
    rw [hn]
    rfl
  have hanswered := ((actions_handled hworkers hcallers).2.2.1 n () (by rw [hn]; rfl)
    (by rw [hn]; nofun)).2
  obtain ⟨⟨⟩, k, m, -, hk, ha⟩ := hanswered [] 5 "ada" _ hactions
  obtain ⟨⟨⟩, k', m', -, hk', ha'⟩ := hanswered [_] 5 "hi" _ hactions
  refine ⟨x, n, hactions, k, m, k', m', ?_, ha, ha'⟩
  by_contra hle
  have hle := (popped_grows x (Nat.not_lt.1 hle)).length_le
  rw [hk, hk', List.append_nil, List.length_append] at hle
  exact absurd hle (Nat.not_succ_le_self _)

end WebGameServer
