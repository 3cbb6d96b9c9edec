import Mathlib.Data.List.Induction
import WebGameServer.TicTacToe.Accounts

namespace WebGameServer
set_option autoImplicit true

namespace Accounts

section Log

variable {s : Accounts} {pid : UInt64}

theorem call_applied (rate : Rate) (s : Accounts) (c : AccountCall)
    (h : ∀ token, c ≠ .submit token) :
    (s.call rate c).1.applied = s.applied := by
  cases c with
  | signup =>
    simp only [call, signup]
    split <;> rfl
  | info pid =>
    simp only [call, info]
    split <;> rfl
  | login pid now =>
    simp only [call, login]
    split
    · rfl
    · split <;> rfl
  | submit token => exact (h token rfl).elim
  | cancel token =>
    simp only [call, cancel]
    split
    · rfl
    · split <;> rfl

def elo (s : Accounts) (pid : UInt64) : Option Int := (s.at? pid).map PlayerData.elo

theorem elo_update_same (hf : ∀ p, (f p).elo = p.elo) (s : Accounts) (pid pid' : UInt64) :
    (s.update pid f).elo pid' = s.elo pid' := by
  rw [elo, at?_update]
  split
  · rw [elo, Option.map_map]
    exact congrArg (fun g => Option.map g (s.at? pid')) (funext hf)
  · rfl

theorem elo_update_ne (s : Accounts) (f : PlayerData → PlayerData) {pid pid' : UInt64}
    (h : pid ≠ pid') : (s.update pid f).elo pid' = s.elo pid' := by
  rw [elo, at?_update, if_neg h, elo]

theorem elo_update_self (h : s.at? pid = some p) (f : PlayerData → PlayerData) :
    (s.update pid f).elo pid = some (f p).elo := by
  rw [elo, at?_update, if_pos rfl, h]
  rfl

/-- A result of two players with accounts has moved their ratings, and no other rating. -/
def Rated (rate : Rate) (s : Accounts) (r : GameResult) (s' : Accounts) : Prop :=
  ∃ id₁ id₂ rest e₁ e₂, r.players = id₁ :: id₂ :: rest ∧
    s.elo id₁ = some e₁ ∧ s.elo id₂ = some e₂ ∧
    (id₁ ≠ id₂ → s'.elo id₁ = some (rate e₁ e₁ e₂ r.scores.1) ∧
      s'.elo id₂ = some (rate e₂ e₂ e₁ r.scores.2)) ∧
    ∀ pid, pid ≠ id₁ → pid ≠ id₂ → s'.elo pid = s.elo pid

theorem submit_rated (rate : Rate) {token : ResultToken} (h : s.Accepts token) :
    s.Rated rate token.result (s.submit rate token).1 := by
  obtain ⟨id₁, id₂, rest, p₁, p₂, hplayers, hp₁, hp₂, hs⟩ := submit_accepted rate h
  have hlower (pid : UInt64) : (s.submit rate token).1.elo pid =
      (s.apply rate id₁ id₂ p₁ p₂ token.result).elo pid := by
    rw [hs]
    exact elo_update_same (by intro p; rfl) _ _ _
  refine ⟨id₁, id₂, rest, p₁.elo, p₂.elo, hplayers, congrArg (Option.map PlayerData.elo) hp₁,
    congrArg (Option.map PlayerData.elo) hp₂, ?_, ?_⟩
  · intro hne
    have hp₂' : (s.update id₁ fun p => { p with
        elo := rate p.elo p₁.elo p₂.elo token.result.scores.1 }).at? id₂ = some p₂ := by
      rw [at?_update, if_neg hne, hp₂]
    constructor
    · exact (hlower id₁).trans ((elo_update_ne _ _ hne.symm).trans (elo_update_self hp₁ _))
    · exact (hlower id₂).trans (elo_update_self hp₂' _)
  · intro pid hpid₁ hpid₂
    exact (hlower pid).trans ((elo_update_ne _ _ hpid₂.symm).trans (elo_update_ne _ _ hpid₁.symm))

theorem call_elo (rate : Rate) (s : Accounts) (c : AccountCall) (h : ∀ token, c ≠ .submit token)
    (hp : s.elo pid = some e) : (s.call rate c).1.elo pid = some e := by
  cases c with
  | signup =>
    simp only [call, signup]
    split
    · exact hp
    · obtain ⟨p, hp', rfl⟩ := Option.map_eq_some_iff.1 hp
      rw [elo, at?, List.getElem?_append_left (at?_lt hp')]
      exact congrArg (Option.map PlayerData.elo) hp'
  | info pid' =>
    simp only [call, info]
    split <;> exact hp
  | login pid' now =>
    simp only [call, login]
    split
    · exact hp
    · next p hp' =>
      split
      · exact hp
      · by_cases he : pid' = pid
        · subst he
          rw [elo, hp'] at hp
          exact (elo_update_self hp' _).trans hp
        · exact (elo_update_ne s _ he).trans hp
  | submit token => exact (h token rfl).elim
  | cancel token =>
    by_cases hc : s.flag token.pid = true ∧ token.matched = false
    · rw [call, cancel_open hc.1 hc.2]
      exact (elo_update_same (by intro p; rfl) s _ _).trans hp
    · rw [call, cancel_stale hc]
      exact hp

/-- What a request does to the log and the ratings: a submission that is accepted logs its result
and moves the ratings by it, any other request keeps the log and every rating. -/
theorem call_cases (rate : Rate) (s : Accounts) (c : AccountCall) :
    (∃ token, c = .submit token ∧ s.Accepts token ∧
        (s.call rate c).1.applied = s.applied ++ [token.result] ∧
        s.Rated rate token.result (s.call rate c).1) ∨
      ((∀ token, c = .submit token → ¬ s.Accepts token) ∧
        (s.call rate c).1.applied = s.applied ∧
        ∀ pid e, s.elo pid = some e → (s.call rate c).1.elo pid = some e) := by
  by_cases hsub : ∃ token, c = .submit token
  · obtain ⟨token, rfl⟩ := hsub
    by_cases h : s.Accepts token
    · obtain ⟨id₁, id₂, rest, p₁, p₂, -, -, -, hs⟩ := submit_accepted rate h
      exact .inl ⟨token, rfl, h, congrArg Accounts.applied hs, submit_rated rate h⟩
    · apply Or.inr
      rw [call, submit_stale rate h]
      refine ⟨?_, rfl, fun _ _ hp => hp⟩
      intro token' htoken
      cases htoken
      exact h
  · have hother : ∀ token, c ≠ .submit token := fun token he => hsub ⟨token, he⟩
    exact .inr ⟨fun token he => (hother token he).elim, call_applied rate s c hother,
      fun _ _ hp => call_elo rate s c hother hp⟩

/-- The log has the changes of the ratings: a request logs a result and moves the ratings by it,
or keeps the log and every rating. -/
theorem handle_rated (v : Verifiers) (rate : Rate) (s : Accounts) (req : HttpRequest) :
    (∃ r, (s.handle v rate req).1.applied = s.applied ++ [r] ∧
        s.Rated rate r (s.handle v rate req).1) ∨
      ((s.handle v rate req).1.applied = s.applied ∧
        ∀ pid e, s.elo pid = some e → (s.handle v rate req).1.elo pid = some e) := by
  rw [handle]
  cases v.read req with
  | none => exact .inr ⟨rfl, fun _ _ hp => hp⟩
  | some c =>
    rcases call_cases rate s c with ⟨token, -, -, hlog, hrated⟩ | ⟨-, hlog, hkeep⟩
    · exact .inl ⟨token.result, hlog, hrated⟩
    · exact .inr ⟨hlog, hkeep⟩

/-- The log gets the result of a current submission, and nothing by any other request. -/
theorem run_concat_applied (rate : Rate) (s : Accounts) (calls : List AccountCall)
    (c : AccountCall) :
    (∃ token, c = .submit token ∧ s.Current calls token ∧
        (s.run rate (calls ++ [c])).applied = (s.run rate calls).applied ++ [token.result]) ∨
      ((∀ token, c = .submit token → ¬ s.Current calls token) ∧
        (s.run rate (calls ++ [c])).applied = (s.run rate calls).applied) := by
  rw [run_concat]
  rcases call_cases rate (s.run rate calls) c with ⟨token, rfl, h, hlog, -⟩ | ⟨h, hlog, -⟩
  · exact .inl ⟨token, rfl, (current_iff rate s calls token).2 h, hlog⟩
  · apply Or.inr
    constructor
    · intro token htoken hc
      exact h token htoken ((current_iff rate s calls token).1 hc)
    · exact hlog

theorem concat_eq_split_iff {α : Type} {l before after : List α} {c x : α} :
    l ++ [c] = before ++ x :: after ↔ (before = l ∧ x = c ∧ after = []) ∨
      ∃ rest, after = rest ++ [c] ∧ l = before ++ x :: rest := by
  constructor
  · intro h
    cases after using List.reverseRecOn with
    | nil =>
      obtain ⟨hl, hc⟩ := List.append_inj' h rfl
      exact .inl ⟨hl.symm, (List.head_eq_of_cons_eq hc).symm, rfl⟩
    | append_singleton rest d =>
      have hsplit : l ++ [c] = (before ++ x :: rest) ++ [d] := by
        rw [h, List.append_assoc, List.cons_append]
      obtain ⟨hl, hc⟩ := List.append_inj' hsplit rfl
      exact .inr ⟨rest, by rw [hc], hl⟩
  · rintro (⟨rfl, rfl, rfl⟩ | ⟨rest, rfl, rfl⟩)
    · rfl
    · rw [List.append_assoc, List.cons_append]

theorem mem_applied (rate : Rate) (hs : s.applied = []) (calls : List AccountCall)
    (r : GameResult) :
    r ∈ (s.run rate calls).applied ↔ ∃ before token after,
      calls = before ++ .submit token :: after ∧ token.result = r ∧ s.Current before token := by
  induction calls using List.reverseRecOn with
  | nil =>
    constructor
    · intro hr
      rw [run, List.foldl_nil, hs] at hr
      cases hr
    · rintro ⟨before, token, after, he, -⟩
      cases before <;> cases he
  | append_singleton calls c ih =>
    simp only [concat_eq_split_iff]
    rcases run_concat_applied rate s calls c with ⟨token, rfl, hc, he⟩ | ⟨hc, he⟩
    · rw [he, List.mem_append, List.mem_singleton, ih]
      constructor
      · rintro (⟨before, token', after, hsplit, hcurrent⟩ | rfl)
        · exact ⟨before, token', _, .inr ⟨after, rfl, hsplit⟩, hcurrent⟩
        · exact ⟨calls, token, [], .inl ⟨rfl, rfl, rfl⟩, rfl, hc⟩
      · rintro ⟨before, token', after, ⟨rfl, htoken, rfl⟩ | ⟨rest, rfl, hsplit⟩, hcurrent⟩
        · cases htoken
          exact .inr hcurrent.1.symm
        · exact .inl ⟨before, token', rest, hsplit, hcurrent⟩
    · rw [he, ih]
      constructor
      · rintro ⟨before, token', after, hsplit, hcurrent⟩
        exact ⟨before, token', _, .inr ⟨after, rfl, hsplit⟩, hcurrent⟩
      · rintro ⟨before, token', after, ⟨rfl, htoken, rfl⟩ | ⟨rest, rfl, hsplit⟩, hcurrent⟩
        · exact (hc token' htoken.symm hcurrent.2).elim
        · exact ⟨before, token', rest, hsplit, hcurrent⟩

end Log

/-- The result is not submitted by a player who may, after another submission by a player who
might. -/
def NoSecond (s : Accounts) (r : GameResult) (calls : List AccountCall) : Prop :=
  ∀ before token between token' after,
    calls = before ++ .submit token :: (between ++ .submit token' :: after) →
    token.result = r → token'.result = r → s.Current before token →
    ¬ s.Current (before ++ .submit token :: between) token'

theorem noSecond_nil (s : Accounts) (r : GameResult) : s.NoSecond r [] := by
  intro before token between token' after he
  cases before <;> cases he

theorem noSecond_concat (s : Accounts) (r : GameResult) (calls : List AccountCall)
    (c : AccountCall) :
    s.NoSecond r (calls ++ [c]) ↔ s.NoSecond r calls ∧
      ∀ token', c = .submit token' → token'.result = r → s.Current calls token' →
        ∀ before token between, calls = before ++ .submit token :: between →
          token.result = r → ¬ s.Current before token := by
  constructor
  · intro h
    constructor
    · intro before token between token' after he
      apply h before token between token' (after ++ [c])
      rw [he]
      simp only [List.append_assoc, List.cons_append]
    · rintro token' rfl hr' hc' before token between rfl hr hc
      exact h before token between token' [] (by simp only [List.append_assoc, List.cons_append])
        hr hr' hc hc'
  · rintro ⟨h, hlast⟩ before token between token' after he hr hr' hc
    rw [← List.cons_append, ← List.append_assoc] at he
    rcases concat_eq_split_iff.1 he with ⟨hcalls, rfl, -⟩ | ⟨rest, -, hcalls⟩
    · intro hc'
      rw [hcalls] at hc'
      exact hlast token' rfl hr' hc' before token between hcalls.symm hr hc
    · apply h before token between token' rest _ hr hr' hc
      rw [hcalls, List.append_assoc, List.cons_append]

theorem count_applied_le_one_iff (rate : Rate) {s : Accounts} (hs : s.applied = [])
    (r : GameResult) (calls : List AccountCall) :
    (s.run rate calls).applied.count r ≤ 1 ↔ s.NoSecond r calls := by
  induction calls using List.reverseRecOn with
  | nil =>
    rw [run, List.foldl_nil, hs]
    exact ⟨fun _ => s.noSecond_nil r, fun _ => Nat.zero_le 1⟩
  | append_singleton calls c ih =>
    rw [noSecond_concat, ← ih]
    have hmem := mem_applied rate hs calls r
    rcases run_concat_applied rate s calls c with ⟨token, rfl, hc, he⟩ | ⟨hc, he⟩
    · rw [he, List.count_append, List.count_singleton]
      by_cases hr : token.result = r
      · simp only [hr, beq_self_eq_true, ↓reduceIte]
        constructor
        · intro hcount
          have hzero : (s.run rate calls).applied.count r = 0 := by omega
          refine ⟨by omega, ?_⟩
          rintro token' - - - before token between hcalls hr hc
          exact List.count_eq_zero.1 hzero (hmem.2 ⟨before, token, between, hcalls, hr, hc⟩)
        · rintro ⟨-, hlast⟩
          have hnot : r ∉ (s.run rate calls).applied := by
            rw [hmem]
            rintro ⟨before, token', between, hcalls, hr', hc'⟩
            exact hlast token rfl hr hc before token' between hcalls hr' hc'
          rw [List.count_eq_zero.2 hnot]
      · simp only [beq_eq_false_iff_ne.2 hr, Bool.false_eq_true, ↓reduceIte, Nat.add_zero]
        apply (and_iff_left _).symm
        intro token' htoken hr'
        cases htoken
        exact (hr hr').elim
    · rw [he]
      apply (and_iff_left _).symm
      rintro token' htoken - hc'
      exact (hc token' htoken hc').elim

/-- The ratings move by the result of a game at most once exactly if no player who has logged in
submits it after another submission by a player who had logged in. -/
theorem ratings_moved_once_iff (v : Verifiers) (rate : Rate) {s : Accounts} (hs : s.applied = [])
    (reqs : List HttpRequest) (r : GameResult) :
    (s.serve v rate reqs).applied.count r ≤ 1 ↔ s.NoSecond r (reqs.filterMap v.read) := by
  rw [serve_eq_run]
  exact count_applied_le_one_iff rate hs r _

/-- The result of a game of the players 0 and 1, with 0 as the winner. -/
def sampleResult : GameResult := ⟨7, [0, 1], (1, 0)⟩

def sampleVerifiers : Verifiers where
  auth _ token :=
    if token = "zero".toList then some 0 else if token = "one".toList then some 1 else none
  game _ token :=
    if token = "won".toList then some ⟨0, sampleResult⟩
    else if token = "lost".toList then some ⟨1, sampleResult⟩ else none
  matchmaker _ _ := none

/-- The ratings after a game between equal players, and after its second submission. -/
def sampleRate : Rate := fun elo own other score =>
  if own = other then (if score = 1 then elo + 16 else elo - 16)
  else (if score = 1 then elo + 14 else elo - 15)

def sampleRequests (uris : List String) : List HttpRequest :=
  uris.map fun uri => ⟨0, "GET".toList, uri.toList⟩

/-- The winner submits the result twice. -/
theorem ratings_moved_once_iff_winner :
    (Accounts.mk 0 [] []).NoSecond sampleResult ((sampleRequests
      ["/signup", "/signup", "/login/zero", "/login/one", "/submit/won", "/submit/won"]).filterMap
        sampleVerifiers.read) :=
  (ratings_moved_once_iff sampleVerifiers sampleRate rfl _ _).1 (by decide)

/-- Both players submit the result. -/
theorem result_applied_twice :
    let s := (Accounts.mk 0 [] []).serve sampleVerifiers sampleRate (sampleRequests
      ["/signup", "/signup", "/login/zero", "/login/one", "/submit/won", "/submit/lost"])
    s.applied = [sampleResult, sampleResult] ∧ ¬ s.applied.count sampleResult ≤ 1 ∧
      s.elo 0 = some 1530 ∧ s.elo 1 = some 1469 := by
  decide

end Accounts

end WebGameServer
