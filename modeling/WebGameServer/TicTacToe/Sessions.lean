import WebGameServer.Library.Lease
import WebGameServer.TicTacToe.Ratings

namespace WebGameServer
set_option autoImplicit true

namespace Accounts

def start : Accounts := ⟨0, [], []⟩

/-- The session that a player waits or plays in, with the time at which its token expires. -/
def opened (s : Accounts) (pid : UInt64) : Option (UInt64 × Int) :=
  (s.at? pid).bind fun p => if p.matchmaking then some (p.sid, p.expTime) else none

/-- The sessions of the players after a request: they are as before, a login opens one with the
next number, or a player's session is closed. -/
inductive Moves (s : Accounts) : AccountCall → Accounts → Prop where
  | same (hopened : s'.opened = s.opened) (hcount : s'.sessionCount = s.sessionCount) :
      Moves s c s'
  | opens (hnone : s.opened pid = none)
      (hopened : s'.opened = Function.update s.opened pid (some (s.sessionCount, now + 1800)))
      (hcount : s'.sessionCount = s.sessionCount + 1) : Moves s (.login pid now) s'
  | closes (pid : UInt64) (hopened : s'.opened = Function.update s.opened pid none)
      (hcount : s'.sessionCount = s.sessionCount) : Moves s c s'

section Opened

variable {rate : Rate} {s s' : Accounts} {pid pid' : UInt64} {f : PlayerData → PlayerData}

theorem flag_eq_isSome (s : Accounts) (pid : UInt64) : s.flag pid = (s.opened pid).isSome := by
  rw [flag, opened]
  cases s.at? pid with
  | none => rfl
  | some p => cases h : p.matchmaking <;> simp only [Option.any_some, Option.bind_some, h] <;> rfl

theorem opened_update_ne (s : Accounts) (f : PlayerData → PlayerData) (hne : pid ≠ pid') :
    (s.update pid f).opened pid' = s.opened pid' := by
  rw [opened, at?_update, if_neg hne, opened]

theorem opened_update_same
    (hf : ∀ p, (f p).matchmaking = p.matchmaking ∧ (f p).sid = p.sid ∧ (f p).expTime = p.expTime)
    (s : Accounts) (pid pid' : UInt64) : (s.update pid f).opened pid' = s.opened pid' := by
  by_cases he : pid = pid'
  · subst he
    rw [opened, at?_update, if_pos rfl, opened]
    cases s.at? pid with
    | none => rfl
    | some p =>
      obtain ⟨hflag, hsid, hexp⟩ := hf p
      simp only [Option.map_some, Option.bind_some, hflag, hsid, hexp]
  · exact opened_update_ne s f he

theorem opened_update_set {o : Option (UInt64 × Int)}
    (hf : ∀ p, (if (f p).matchmaking then some ((f p).sid, (f p).expTime) else none) = o)
    (h : s.at? pid = some p) : (s.update pid f).opened = Function.update s.opened pid o := by
  funext pid'
  by_cases he : pid' = pid
  · subst he
    rw [opened, at?_update, if_pos rfl, h, Function.update_self]
    exact hf p
  · rw [opened_update_ne s f fun h => he h.symm, Function.update_of_ne he]

theorem opened_signup (s : Accounts) :
    opened { s with playerDatabase := s.playerDatabase ++ [⟨1500, false, 0, 0⟩] } = s.opened := by
  funext pid
  simp only [opened, at?]
  rcases Nat.lt_trichotomy pid.toNat s.playerDatabase.length with h | h | h
  · rw [List.getElem?_append_left h]
  · rw [h, List.getElem?_concat_length, List.getElem?_eq_none_iff.2 (Nat.le_refl _)]
    rfl
  · rw [List.getElem?_eq_none_iff.2 (Nat.le_of_lt h), List.getElem?_eq_none_iff.2 ?_]
    rw [List.length_append]
    exact h

theorem signup_moves (s : Accounts) : Moves s .signup s.signup.1 := by
  rw [signup]
  split
  · exact .same rfl rfl
  · exact .same (opened_signup s) rfl

theorem login_moves (s : Accounts) (pid : UInt64) (now : Int) :
    Moves s (.login pid now) (s.login pid now).1 := by
  cases h : s.at? pid with
  | none =>
    simp only [login, h]
    exact .same rfl rfl
  | some p =>
    cases hp : p.matchmaking with
    | true =>
      simp only [login, h, hp, ↓reduceIte]
      exact .same rfl rfl
    | false =>
      have hnone : s.opened pid = none := by
        simp only [opened, h, Option.bind_some, hp, Bool.false_eq_true, ↓reduceIte]
      simp only [login, h, hp, Bool.false_eq_true, ↓reduceIte]
      apply Moves.opens hnone _ rfl
      exact opened_update_set (f := fun _ => ⟨p.elo, true, s.sessionCount, now + 1800⟩)
        (fun _ => rfl) h

theorem lower_opened (hflag : s.flag pid = true) :
    (s.update pid fun p => { p with matchmaking := false }).opened =
      Function.update s.opened pid none := by
  cases h : s.at? pid with
  | none =>
    rw [flag, h] at hflag
    cases hflag
  | some p => exact opened_update_set (fun _ => rfl) h

theorem apply_opened (rate : Rate) (s : Accounts) (id₁ id₂ : UInt64) (p₁ p₂ : PlayerData)
    (r : GameResult) : (s.apply rate id₁ id₂ p₁ p₂ r).opened = s.opened := by
  funext pid
  have h₁ := opened_update_same
    (f := fun p => { p with elo := rate p.elo p₁.elo p₂.elo r.scores.1 })
    (fun _ => ⟨rfl, rfl, rfl⟩) s id₁ pid
  have h₂ := opened_update_same
    (f := fun p => { p with elo := rate p.elo p₂.elo p₁.elo r.scores.2 })
    (fun _ => ⟨rfl, rfl, rfl⟩)
    (s.update id₁ fun p => { p with elo := rate p.elo p₁.elo p₂.elo r.scores.1 }) id₂ pid
  exact h₂.trans h₁

theorem submit_moves (rate : Rate) (s : Accounts) (token : ResultToken) :
    Moves s (.submit token) (s.submit rate token).1 := by
  by_cases haccepts : s.Accepts token
  · obtain ⟨id₁, id₂, rest, p₁, p₂, -, -, -, hs⟩ := submit_accepted rate haccepts
    have hview := s.apply_view rate id₁ id₂ p₁ p₂ token.result token.pid
    have hflag := (Prod.mk.inj hview).2.trans haccepts.1
    have hclosed := lower_opened hflag
    rw [apply_opened] at hclosed
    rw [hs]
    exact .closes token.pid hclosed rfl
  · rw [submit_stale rate haccepts]
    exact .same rfl rfl

theorem cancel_moves (s : Accounts) (token : MatchToken) :
    Moves s (.cancel token) (s.cancel token).1 := by
  by_cases hopen : s.flag token.pid = true ∧ token.matched = false
  · rw [cancel_open hopen.1 hopen.2]
    exact .closes token.pid (lower_opened hopen.1) rfl
  · rw [cancel_stale hopen]
    exact .same rfl rfl

theorem call_moves (rate : Rate) (s : Accounts) (c : AccountCall) :
    Moves s c (s.call rate c).1 := by
  cases c with
  | signup => exact signup_moves s
  | info pid =>
    simp only [call, info]
    cases s.at? pid <;> exact .same rfl rfl
  | login pid now => exact login_moves s pid now
  | submit token => exact submit_moves rate s token
  | cancel token => exact cancel_moves s token

end Opened

section Leases

variable {rate : Rate} {s s' : Accounts} {l : Lease UInt64} {calls : List AccountCall}
  {pid : UInt64}

/-- The players lease their sessions, whose numbers are counted modulo the size of the counter. -/
structure Leases (s : Accounts) (l : Lease UInt64) : Prop where
  count : s.sessionCount = .ofNat l.next
  held : ∀ pid, (s.opened pid).map Prod.fst = (l.held pid).map UInt64.ofNat

theorem start_leases : start.Leases .start where
  count := rfl
  held _ := rfl

/-- A request leases a number, releases one, or neither; a flag falls exactly when the number of
its player is released. -/
theorem Leases.step (h : s.Leases l) (hm : Moves s c s') :
    ∃ ops, s'.Leases (l.run ops) ∧ ops.length ≤ 1 ∧
      ∀ pid, s.flag pid = true → (s'.flag pid = true ↔ .release pid ∉ ops) := by
  cases hm with
  | same hopened hcount =>
    refine ⟨[], ⟨hcount.trans h.count, fun pid => ?_⟩, Nat.zero_le _, fun pid hflag => ?_⟩
    · rw [hopened]
      exact h.held pid
    · rw [flag_eq_isSome, hopened, ← flag_eq_isSome]
      exact ⟨fun _ => List.not_mem_nil, fun _ => hflag⟩
  | @opens pid now _ hnone hopened hcount =>
    have hfree : l.held pid = none := by
      have hheld := h.held pid
      rw [hnone] at hheld
      exact Option.map_eq_none_iff.1 hheld.symm
    refine ⟨[.acquire pid], ?_, Nat.le_refl _, fun pid' hflag => ?_⟩
    · rw [Lease.run_cons, Lease.step_acquire_free hfree]
      constructor
      · rw [hcount, h.count]
        exact (UInt64.ofNat_add l.next 1).symm
      · intro pid'
        by_cases he : pid' = pid
        · subst he
          rw [hopened, h.count]
          simp only [Lease.run, List.foldl_nil, Function.update_self, Option.map_some]
        · rw [hopened]
          simp only [Lease.run, List.foldl_nil, Function.update_of_ne he]
          exact h.held pid'
    · have hne : pid' ≠ pid := by
        rintro rfl
        rw [flag_eq_isSome, hnone] at hflag
        cases hflag
      rw [flag_eq_isSome, hopened, Function.update_of_ne hne, ← flag_eq_isSome]
      refine ⟨fun _ hmem => ?_, fun _ => hflag⟩
      cases List.mem_singleton.1 hmem
  | closes pid hopened hcount =>
    refine ⟨[.release pid], ⟨hcount.trans h.count, fun pid' => ?_⟩, Nat.le_refl _,
      fun pid' hflag => ?_⟩
    · by_cases he : pid' = pid
      · subst he
        simp only [hopened, Lease.run, List.foldl_cons, List.foldl_nil, Lease.step,
          Function.update_self, Option.map_none]
      · simp only [hopened, Lease.run, List.foldl_cons, List.foldl_nil, Lease.step,
          Function.update_of_ne he]
        exact h.held pid'
    · rw [flag_eq_isSome, hopened, List.mem_singleton]
      by_cases he : pid' = pid
      · subst he
        rw [Function.update_self]
        exact ⟨fun hsome => Bool.noConfusion hsome, fun hne => (hne rfl).elim⟩
      · rw [Function.update_of_ne he, ← flag_eq_isSome]
        exact ⟨fun _ hrel => he (LeaseOp.release.inj hrel), fun _ => hflag⟩

theorem run_cons (rate : Rate) (s : Accounts) (c : AccountCall) (calls : List AccountCall) :
    s.run rate (c :: calls) = (s.call rate c).1.run rate calls := rfl

theorem run_append (rate : Rate) (s : Accounts) (calls calls' : List AccountCall) :
    s.run rate (calls ++ calls') = (s.run rate calls).run rate calls' := List.foldl_append

/-- Every run of the accounts is a run of leases, in which a player's number is released exactly
if the flag of this player falls. -/
theorem Leases.run (h : s.Leases l) (rate : Rate) (calls : List AccountCall) :
    ∃ ops, (s.run rate calls).Leases (l.run ops) ∧ ops.length ≤ calls.length ∧
      ∀ pid, s.flag pid = true →
        ((∀ part, part <+: calls → (s.run rate part).flag pid = true) ↔ .release pid ∉ ops) := by
  induction calls generalizing s l with
  | nil =>
    refine ⟨[], h, Nat.le_refl _, fun pid hflag => ⟨fun _ => List.not_mem_nil, ?_⟩⟩
    intro _ part hpart
    rw [List.prefix_nil.1 hpart]
    exact hflag
  | cons c calls ih =>
    obtain ⟨ops, hstep, hlen, hfall⟩ := h.step (call_moves rate s c)
    obtain ⟨rest, hrun, hlen', hfalls⟩ := ih hstep
    refine ⟨ops ++ rest, ?_, ?_, fun pid hflag => ?_⟩
    · rw [Lease.run_append]
      exact hrun
    · rw [List.length_append, List.length_cons]
      omega
    · rw [List.mem_append, not_or, ← hfall pid hflag]
      constructor
      · intro hall
        have hone : (s.call rate c).1.flag pid = true :=
          hall [c] (List.cons_prefix_cons.2 ⟨rfl, List.nil_prefix⟩)
        refine ⟨hone, (hfalls pid hone).1 fun part hpart => ?_⟩
        exact hall (c :: part) (List.cons_prefix_cons.2 ⟨rfl, hpart⟩)
      · rintro ⟨hone, hrel⟩ part hpart
        rcases List.prefix_cons_iff.1 hpart with rfl | ⟨tail, rfl, htail⟩
        · exact hflag
        · exact (hfalls pid hone).2 hrel tail htail

/-- The session of a player stays the same while the flag of the player is raised. -/
theorem opened_run {o : UInt64 × Int} (h : s.opened pid = some o) (rate : Rate)
    (calls : List AccountCall) (hflag : ∀ part, part <+: calls → (s.run rate part).flag pid = true) :
    (s.run rate calls).opened pid = some o := by
  induction calls generalizing s with
  | nil => exact h
  | cons c calls ih =>
    have hone : (s.call rate c).1.flag pid = true :=
      hflag [c] (List.cons_prefix_cons.2 ⟨rfl, List.nil_prefix⟩)
    apply ih
    · cases call_moves rate s c with
      | same hopened hcount => rw [hopened, h]
      | @opens pid' _ _ hnone hopened hcount =>
        have hne : pid ≠ pid' := by
          rintro rfl
          cases h.symm.trans hnone
        rw [hopened, Function.update_of_ne hne, h]
      | closes pid' hopened hcount =>
        have hne : pid ≠ pid' := by
          rintro rfl
          rw [flag_eq_isSome, hopened, Function.update_self] at hone
          cases hone
        rw [hopened, Function.update_of_ne hne, h]
    · exact fun part hpart => hflag (c :: part) (List.cons_prefix_cons.2 ⟨rfl, hpart⟩)

/-- An answered login is the login of an account, which has the session of the answer open. -/
theorem handle_login {v : Verifiers} {req : HttpRequest}
    (h : (s.handle v rate req).2 = .login pid sid expTime rating) :
    ∃ now, v.read req = some (.login pid now) ∧
      (s.handle v rate req).1.opened pid = some (sid, expTime) := by
  rw [handle] at h ⊢
  cases hread : v.read req with
  | none =>
    simp only [hread] at h
    rcases refusal_cases (dispatch req.method req.uri) with he | he
    · cases he.symm.trans h
    · cases he.symm.trans h
  | some c =>
    rw [hread] at h
    cases c with
    | signup =>
      simp only [call, signup] at h
      split at h <;> cases h
    | info pid' =>
      simp only [call, info] at h
      split at h <;> cases h
    | submit token =>
      simp only [call, submit] at h
      repeat' split at h
      all_goals cases h
    | cancel token =>
      simp only [call, cancel] at h
      repeat' split at h
      all_goals cases h
    | login pid' now =>
      cases hp : s.at? pid' with
      | none =>
        simp only [call, login, hp] at h
        cases h
      | some p =>
        cases hm : p.matchmaking with
        | true =>
          simp only [call, login, hp, hm, ↓reduceIte] at h ⊢
          cases h
          refine ⟨now, rfl, ?_⟩
          simp only [opened, hp, Option.bind_some, hm, ↓reduceIte]
        | false =>
          simp only [call, login, hp, hm, Bool.false_eq_true, ↓reduceIte] at h ⊢
          cases h
          have hset := congrFun (opened_update_set
            (f := fun _ => ⟨p.elo, true, s.sessionCount, now + 1800⟩) (fun _ => rfl) hp) pid
          exact ⟨now, rfl, hset.trans (Function.update_self _ _ _)⟩

theorem Leases.exists_held (h : s.Leases l) (hopen : s.opened pid = some (sid, expTime)) :
    ∃ i, l.held pid = some i ∧ UInt64.ofNat i = sid := by
  have hheld := h.held pid
  rw [hopen] at hheld
  exact Option.map_eq_some_iff.1 hheld.symm

/-- An open session is one that was open before exactly if its player has kept it. -/
theorem Leases.session_eq_iff (h : s.Leases l) (hf : l.Fresh)
    (hlen : l.next + calls.length ≤ UInt64.size) (hopen : s.opened pid = some (sid, expTime))
    (hopen' : (s.run rate calls).opened pid' = some (sid', expTime')) :
    sid' = sid ↔ pid' = pid ∧ ∀ part, part <+: calls → (s.run rate part).flag pid = true := by
  obtain ⟨ops, hrun, hops, hfalls⟩ := h.run rate calls
  obtain ⟨i, hi, rfl⟩ := h.exists_held hopen
  obtain ⟨j, hj, rfl⟩ := hrun.exists_held hopen'
  obtain ⟨hlt, hkeeps, honly⟩ := Lease.held_run hf hi ops
  have hflag : s.flag pid = true := by
    rw [flag_eq_isSome, hopen]
    rfl
  have hnext := Lease.next_run_le l ops
  have hjlt := (hf.run ops).lt hj
  constructor
  · intro heq
    have hij : j = i := by
      have hnat := congrArg UInt64.toNat heq
      rwa [UInt64.toNat_ofNat_of_lt' (by omega), UInt64.toNat_ofNat_of_lt' (by omega)] at hnat
    subst hij
    have he := honly pid' hj
    subst he
    exact ⟨rfl, (hfalls pid' hflag).2 (hkeeps.1 hj)⟩
  · rintro ⟨rfl, hkept⟩
    have hi' := hkeeps.2 ((hfalls pid' hflag).1 hkept)
    rw [Option.some.inj (hj.symm.trans hi')]

section Requests

variable {v : Verifiers} {reqs : List HttpRequest}

theorem serve_append (v : Verifiers) (rate : Rate) (s : Accounts) (reqs reqs' : List HttpRequest) :
    s.serve v rate (reqs ++ reqs') = (s.serve v rate reqs).serve v rate reqs' :=
  List.foldl_append

theorem serve_concat (v : Verifiers) (rate : Rate) (s : Accounts) (reqs : List HttpRequest)
    (req : HttpRequest) :
    s.serve v rate (reqs ++ [req]) = ((s.serve v rate reqs).handle v rate req).1 :=
  serve_append v rate s reqs [req]

theorem serve_flag (v : Verifiers) (rate : Rate) (s : Accounts) (reqs : List HttpRequest)
    (pid : UInt64) :
    (s.serve v rate reqs).flag pid = (s.history (reqs.filterMap v.read) pid).2 := by
  rw [serve_eq_run, ← run_view rate]
  rfl

theorem exists_leases (v : Verifiers) (rate : Rate) (reqs : List HttpRequest) :
    ∃ l : Lease UInt64, (start.serve v rate reqs).Leases l ∧ l.Fresh ∧ l.next ≤ reqs.length := by
  obtain ⟨ops, hleases, hops, -⟩ := start_leases.run rate (reqs.filterMap v.read)
  refine ⟨_, serve_eq_run v rate start reqs ▸ hleases, Lease.Fresh.start.run ops, ?_⟩
  have hnext := Lease.next_run_le Lease.start ops
  have hle := List.length_filterMap_le v.read reqs
  have hzero : (Lease.start : Lease UInt64).next = 0 := rfl
  omega

/-- A flag that is raised at the end is raised throughout if it is before the last request. -/
theorem raised_concat_iff {req : HttpRequest}
    (hlast : (s.serve v rate (reqs ++ [req])).flag pid = true) :
    (∀ part, part <+: (reqs ++ [req]).filterMap v.read → (s.run rate part).flag pid = true) ↔
      ∀ part, part <+: reqs → (s.serve v rate part).flag pid = true := by
  constructor
  · intro hall part hpart
    rw [serve_eq_run]
    apply hall
    exact (hpart.trans (List.prefix_append reqs [req])).filterMap v.read
  · intro hall part hpart
    obtain ⟨reqs', hreqs, rfl⟩ := List.prefix_filterMap_iff.1 hpart
    rw [← serve_eq_run]
    rcases List.prefix_concat_iff.1 hreqs with rfl | hreqs
    · exact hlast
    · exact hall reqs' hreqs

end Requests

def Issued (v : Verifiers) (rate : Rate) (reqs : List HttpRequest) (pid sid : UInt64) : Prop :=
  ∃ before req expTime rating, before ++ [req] <+: reqs ∧
    ((start.serve v rate before).handle v rate req).2 = .login pid sid expTime rating

theorem Issued.opened {v : Verifiers} {reqs : List HttpRequest} (h : Issued v rate reqs pid sid) :
    ∃ part expTime, part <+: reqs ∧ (start.serve v rate part).opened pid = some (sid, expTime) := by
  obtain ⟨before, req, expTime, rating, hpart, hanswer⟩ := h
  obtain ⟨now, -, hopen⟩ := handle_login hanswer
  exact ⟨_, expTime, hpart, serve_concat v rate start before req ▸ hopen⟩

theorem Issued.extend {v : Verifiers} {reqs reqs' : List HttpRequest}
    (h : Issued v rate reqs pid sid) (hpart : reqs <+: reqs') : Issued v rate reqs' pid sid := by
  obtain ⟨before, req, expTime, rating, hbefore, hanswer⟩ := h
  exact ⟨before, req, expTime, rating, hbefore.trans hpart, hanswer⟩

theorem issued_unique {v : Verifiers} {reqs : List HttpRequest} (hlen : reqs.length ≤ UInt64.size)
    (h : Issued v rate reqs pid sid) (h' : Issued v rate reqs pid' sid) : pid' = pid := by
  have later {part part' : List HttpRequest} {pid pid' : UInt64} {expTime expTime' : Int}
      (hpart : part <+: part') (hpart' : part' <+: reqs)
      (hopen : (start.serve v rate part).opened pid = some (sid, expTime))
      (hopen' : (start.serve v rate part').opened pid' = some (sid, expTime')) : pid' = pid := by
    obtain ⟨rest, rfl⟩ := hpart
    obtain ⟨l, hleases, hfresh, hnext⟩ := exists_leases v rate part
    rw [serve_append, serve_eq_run v rate (start.serve v rate part)] at hopen'
    have hle := List.length_filterMap_le v.read rest
    have hsum := hpart'.length_le
    rw [List.length_append] at hsum
    exact ((hleases.session_eq_iff hfresh (by omega) hopen hopen').1 rfl).1
  obtain ⟨part, expTime, hpart, hopen⟩ := h.opened
  obtain ⟨part', expTime', hpart', hopen'⟩ := h'.opened
  rcases List.prefix_or_prefix_of_prefix hpart hpart' with hle | hle
  · exact later hle hpart' hopen hopen'
  · exact (later hle hpart hopen' hopen).symm

/-- A player is given the session of an earlier login again, and its expiry, exactly if it is the
same player and the flag of the player has been raised ever since. -/
theorem session_reissued_iff (v : Verifiers) (rate : Rate) {before mid : List HttpRequest}
    {req req' : HttpRequest} (hlen : before.length + mid.length + 2 ≤ UInt64.size)
    (h : ((start.serve v rate before).handle v rate req).2 = .login pid sid expTime rating)
    (h' : ((start.serve v rate (before ++ [req] ++ mid)).handle v rate req').2 =
      .login pid' sid' expTime' rating') :
    (sid' = sid ↔ pid' = pid ∧ ∀ part, part <+: mid →
      (start.history ((before ++ [req] ++ part).filterMap v.read) pid).2 = true) ∧
      (sid' = sid → expTime' = expTime) := by
  obtain ⟨now, -, hopen⟩ := handle_login h
  obtain ⟨now', -, hopen'⟩ := handle_login h'
  obtain ⟨l, hleases, hfresh, hnext⟩ := exists_leases v rate (before ++ [req])
  rw [← serve_concat] at hopen
  rw [← serve_concat, List.append_assoc, serve_append] at hopen'
  have hlen' : l.next + ((mid ++ [req']).filterMap v.read).length ≤ UInt64.size := by
    have hle := List.length_filterMap_le v.read (mid ++ [req'])
    simp only [List.length_append, List.length_singleton] at hle hnext
    omega
  have heq := hleases.session_eq_iff hfresh hlen' hopen (serve_eq_run v rate _ _ ▸ hopen')
  have hraised : pid' = pid → ((start.serve v rate (before ++ [req])).serve v rate
      (mid ++ [req'])).flag pid = true := by
    rintro rfl
    rw [flag_eq_isSome, hopen']
    rfl
  have hkept : pid' = pid → ((∀ part, part <+: (mid ++ [req']).filterMap v.read →
      ((start.serve v rate (before ++ [req])).run rate part).flag pid = true) ↔
      ∀ part, part <+: mid →
        (start.history ((before ++ [req] ++ part).filterMap v.read) pid).2 = true) := by
    intro he
    rw [raised_concat_iff (hraised he)]
    simp only [← serve_append, serve_flag]
  constructor
  · rw [heq]
    exact and_congr_right hkept
  · intro hsid
    obtain ⟨rfl, hall⟩ := heq.1 hsid
    have hagain := opened_run hopen rate _ hall
    rw [← serve_eq_run, hopen'] at hagain
    exact (Prod.mk.inj (Option.some.inj hagain)).2

/-- A player logs in, and again after the result of the game is submitted. -/
theorem session_reissued_zero :
    ((2 : UInt64) = 0 ↔ (0 : UInt64) = 0 ∧ ∀ part,
      part <+: sampleRequests ["/login/one", "/submit/won"] →
        (start.history ((sampleRequests ["/signup", "/signup"] ++ sampleRequests ["/login/zero"] ++
          part).filterMap sampleVerifiers.read) 0).2 = true) ∧
      ((2 : UInt64) = 0 → (1800 : Int) = 1800) := by
  have h : ((start.serve sampleVerifiers sampleRate (sampleRequests ["/signup", "/signup"])).handle
      sampleVerifiers sampleRate ⟨0, "GET".toList, "/login/zero".toList⟩).2 =
        .login 0 0 1800 1500 := rfl
  have h' : ((start.serve sampleVerifiers sampleRate (sampleRequests ["/signup", "/signup"] ++
      sampleRequests ["/login/zero"] ++ sampleRequests ["/login/one", "/submit/won"])).handle
        sampleVerifiers sampleRate ⟨0, "GET".toList, "/login/zero".toList⟩).2 =
          .login 0 2 1800 1516 := rfl
  exact session_reissued_iff sampleVerifiers sampleRate (by decide) h h'

end Leases

end Accounts

end WebGameServer
