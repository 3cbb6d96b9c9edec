import Mathlib.Data.List.Induction
import Mathlib.Data.Rat.Defs
import WebGameServer.TicTacToe.HttpHandler

namespace WebGameServer
set_option autoImplicit true

/-- An entry of `player_database`, whose index is the id of the player. -/
structure PlayerData where
  elo : Int
  matchmaking : Bool
  sid : UInt64
  expTime : Int

/-- What the tokens for the players of a finished game have in common. -/
structure GameResult where
  sid : UInt64
  players : List UInt64
  scores : ℚ × ℚ
  deriving DecidableEq

/-- The claims of a token that the game server has signed for a player of a finished game. -/
structure ResultToken where
  pid : UInt64
  result : GameResult

/-- The claims of a token that the matchmaking server has signed. -/
structure MatchToken where
  pid : UInt64
  sid : UInt64
  matched : Bool

/-- The requests that read or change the accounts, with the time in seconds. A request whose
token does not pass its verifier is none of them. -/
inductive AccountCall where
  | signup
  | info (pid : UInt64)
  | login (pid : UInt64) (now : Int)
  | submit (token : ResultToken)
  | cancel (token : MatchToken)

structure HttpRequest where
  now : Int
  method : Text
  uri : Text

/-- The three verifiers at a time, with the claims that the handler reads. -/
structure Verifiers where
  auth : Int → Text → Option UInt64
  game : Int → Text → Option ResultToken
  matchmaker : Int → Text → Option MatchToken

/-- The branch of `http_handler` that a request takes, up to the verification of its token. -/
def Verifiers.read (v : Verifiers) (req : HttpRequest) : Option AccountCall :=
  match dispatch req.method req.uri with
  | .signup => some .signup
  | .info token => (v.auth req.now token).map .info
  | .login token => (v.auth req.now token).map (.login · req.now)
  | .submit token => (v.game req.now token).map .submit
  | .cancel token => (v.matchmaker req.now token).map .cancel
  | _ => none

/-- `MAX_PIDS`. -/
def maxPids : Nat := 10000000

/-- The globals of `matchmaking_server.cpp`. The field `applied` is ghost: the results by which
ratings were changed, in order. -/
structure Accounts where
  sessionCount : UInt64
  playerDatabase : List PlayerData
  applied : List GameResult

/-- What the handler answers. -/
inductive AccountAnswer where
  | none
  | success (b : Bool)
  | signedUp (pid : UInt64)
  | rating (pid : UInt64) (elo : Int)
  | login (pid : UInt64) (sid : UInt64) (expTime : Int) (elo : Int)

namespace Accounts

/-- `player_database.at(pid)`, with `none` for the exception. -/
def at? (s : Accounts) (pid : UInt64) : Option PlayerData := s.playerDatabase[pid.toNat]?

def update (s : Accounts) (pid : UInt64) (f : PlayerData → PlayerData) : Accounts :=
  { s with playerDatabase := s.playerDatabase.modify pid.toNat f }

def signup (s : Accounts) : Accounts × AccountAnswer :=
  if maxPids ≤ s.playerDatabase.length then (s, .success false)
  else
    ({ s with playerDatabase := s.playerDatabase ++ [⟨1500, false, 0, 0⟩] },
      .signedUp (.ofNat s.playerDatabase.length))

def info (s : Accounts) (pid : UInt64) : Accounts × AccountAnswer :=
  match s.at? pid with
  | none => (s, .none)
  | some p => (s, .rating pid p.elo)

def login (s : Accounts) (pid : UInt64) (now : Int) : Accounts × AccountAnswer :=
  match s.at? pid with
  | none => (s, .none)
  | some p =>
    if p.matchmaking then (s, .login pid p.sid p.expTime p.elo)
    else
      let p := { p with expTime := now + 1800, sid := s.sessionCount, matchmaking := true }
      ({ s.update pid fun _ => p with sessionCount := s.sessionCount + 1 },
        .login pid p.sid p.expTime p.elo)

/-- The rating that a current rating changes to after a game between two ratings, for the score
of the first one. -/
abbrev Rate := Int → Int → Int → ℚ → Int

/-- Changes the ratings of both players by the result. -/
def apply (rate : Rate) (s : Accounts) (id₁ id₂ : UInt64) (p₁ p₂ : PlayerData)
    (r : GameResult) : Accounts :=
  let s := s.update id₁ fun p => { p with elo := rate p.elo p₁.elo p₂.elo r.scores.1 }
  let s := s.update id₂ fun p => { p with elo := rate p.elo p₂.elo p₁.elo r.scores.2 }
  { s with applied := s.applied ++ [r] }

def submit (rate : Rate) (s : Accounts) (token : ResultToken) : Accounts × AccountAnswer :=
  match s.at? token.pid with
  | none => (s, .success false)
  | some p =>
    if p.matchmaking then
      match token.result.players with
      | id₁ :: id₂ :: _ =>
        match s.at? id₁, s.at? id₂ with
        | some p₁, some p₂ =>
          ((s.apply rate id₁ id₂ p₁ p₂ token.result).update token.pid
            fun p => { p with matchmaking := false }, .success true)
        | _, _ => (s, .success false)
      | _ => (s, .success false)
    else (s, .success true)

def cancel (s : Accounts) (token : MatchToken) : Accounts × AccountAnswer :=
  match s.at? token.pid with
  | none => (s, .success false)
  | some p =>
    if p.matchmaking && !token.matched then
      (s.update token.pid fun p => { p with matchmaking := false }, .success true)
    else (s, .success false)

def call (rate : Rate) (s : Accounts) : AccountCall → Accounts × AccountAnswer
  | .signup => s.signup
  | .info pid => s.info pid
  | .login pid now => s.login pid now
  | .submit token => s.submit rate token
  | .cancel token => s.cancel token

/-- What a request is answered whose verification throws. -/
def refusal : Route → AccountAnswer
  | .submit _ | .cancel _ => .success false
  | _ => .none

theorem refusal_cases (route : Route) : refusal route = .none ∨ refusal route = .success false := by
  cases route with
  | submit | cancel => exact .inr rfl
  | notAllowed | signup | info | login | file => exact .inl rfl

/-- A request that fails its verification changes nothing. -/
def handle (v : Verifiers) (rate : Rate) (s : Accounts) (req : HttpRequest) :
    Accounts × AccountAnswer :=
  match v.read req with
  | some c => s.call rate c
  | none => (s, refusal (dispatch req.method req.uri))

def serve (v : Verifiers) (rate : Rate) (s : Accounts) (reqs : List HttpRequest) : Accounts :=
  reqs.foldl (fun s req => (s.handle v rate req).1) s

/-- The accounts after the requests that have passed their verifiers. -/
def run (rate : Rate) (s : Accounts) (calls : List AccountCall) : Accounts :=
  calls.foldl (fun s c => (s.call rate c).1) s

theorem serve_eq_run (v : Verifiers) (rate : Rate) (s : Accounts) (reqs : List HttpRequest) :
    s.serve v rate reqs = s.run rate (reqs.filterMap v.read) := by
  rw [run, List.foldl_filterMap]
  apply congrArg fun f => List.foldl f s reqs
  funext s req
  simp only [handle]
  cases v.read req <;> rfl

def flag (s : Accounts) (pid : UInt64) : Bool := (s.at? pid).any PlayerData.matchmaking

/-- What a player's requests depend on: the number of accounts and the flag of the player. -/
def view (s : Accounts) (pid : UInt64) : Nat × Bool := (s.playerDatabase.length, s.flag pid)

end Accounts

/-- The first two players of the result have accounts. -/
def GameResult.rateable (r : GameResult) (size : Nat) : Bool :=
  match r.players with
  | id₁ :: id₂ :: _ => decide (id₁.toNat < size ∧ id₂.toNat < size)
  | _ => false

/-- How a request moves the number of accounts and the flag of a player: a login raises the flag,
a submission or a cancellation before a match lowers it. -/
def AccountCall.observe (pid : UInt64) (size : Nat) (waiting : Bool) : AccountCall → Nat × Bool
  | .signup => if maxPids ≤ size then (size, waiting) else (size + 1, waiting)
  | .info _ => (size, waiting)
  | .login pid' _ => if pid' = pid ∧ pid.toNat < size then (size, true) else (size, waiting)
  | .submit token =>
    if token.pid = pid ∧ token.result.rateable size = true then (size, false)
    else (size, waiting)
  | .cancel token =>
    if token.pid = pid ∧ token.matched = false then (size, false) else (size, waiting)

namespace Accounts

/-- What a player's requests depend on after a sequence of requests. -/
def history (s : Accounts) (calls : List AccountCall) (pid : UInt64) : Nat × Bool :=
  calls.foldl (fun h c => c.observe pid h.1 h.2) (s.view pid)

/-- The submission of the token comes from a player who has logged in since the last submission
or cancellation of that player, and both players of the game have accounts. -/
def Current (s : Accounts) (before : List AccountCall) (token : ResultToken) : Prop :=
  (s.history before token.pid).2 = true ∧
    token.result.rateable (s.history before token.pid).1 = true

section Views

variable {rate : Rate} {s : Accounts} {pid : UInt64} {f : PlayerData → PlayerData}

theorem update_length (s : Accounts) (pid : UInt64) (f : PlayerData → PlayerData) :
    (s.update pid f).playerDatabase.length = s.playerDatabase.length :=
  List.length_modify _ _ _

theorem at?_update (s : Accounts) (pid pid' : UInt64) (f : PlayerData → PlayerData) :
    (s.update pid f).at? pid' = if pid = pid' then (s.at? pid').map f else s.at? pid' := by
  rw [at?, at?, update, List.getElem?_modify]
  by_cases h : pid = pid'
  · subst h
    simp only [↓reduceIte]
    cases s.playerDatabase[pid.toNat]? <;> rfl
  · have hne : pid.toNat ≠ pid'.toNat := fun he => h (UInt64.toNat.inj he)
    simp only [h, hne, ↓reduceIte]
    cases s.playerDatabase[pid'.toNat]? <;> rfl

theorem at?_lt (h : s.at? pid = some p) : pid.toNat < s.playerDatabase.length :=
  (List.getElem?_eq_some_iff.1 h).1

theorem at?_of_lt (h : pid.toNat < s.playerDatabase.length) : ∃ p, s.at? pid = some p :=
  ⟨_, List.getElem?_eq_getElem h⟩

theorem flag_update_same (hf : ∀ p, (f p).matchmaking = p.matchmaking) (pid' : UInt64) :
    (s.update pid f).flag pid' = s.flag pid' := by
  rw [flag, at?_update]
  split
  · rw [flag]
    cases s.at? pid' with
    | none => rfl
    | some p => exact hf p
  · rfl

theorem flag_update_set (b : Bool) (hf : ∀ p, (f p).matchmaking = b)
    (h : s.at? pid = some p) (pid' : UInt64) :
    (s.update pid f).flag pid' = if pid = pid' then b else s.flag pid' := by
  rw [flag, at?_update]
  by_cases he : pid = pid'
  · subst he
    simp only [↓reduceIte, h, Option.map_some, Option.any_some, hf]
  · simp only [he, ↓reduceIte, flag]

theorem apply_view (rate : Rate) (s : Accounts) (id₁ id₂ : UInt64) (p₁ p₂ : PlayerData)
    (r : GameResult) (pid : UInt64) : (s.apply rate id₁ id₂ p₁ p₂ r).view pid = s.view pid := by
  have hflag : (s.apply rate id₁ id₂ p₁ p₂ r).flag pid = s.flag pid :=
    (flag_update_same (by intro p; rfl) pid).trans (flag_update_same (by intro p; rfl) pid)
  have hlength : (s.apply rate id₁ id₂ p₁ p₂ r).playerDatabase.length =
      s.playerDatabase.length :=
    (update_length _ id₂ _).trans (update_length s id₁ _)
  rw [view, hflag, hlength, view]

theorem flag_signup (s : Accounts) (pid : UInt64) :
    flag { s with playerDatabase := s.playerDatabase ++ [⟨1500, false, 0, 0⟩] } pid =
      s.flag pid := by
  simp only [flag, at?]
  rcases Nat.lt_trichotomy pid.toNat s.playerDatabase.length with h | h | h
  · rw [List.getElem?_append_left h]
  · rw [h, List.getElem?_concat_length, List.getElem?_eq_none_iff.2 (Nat.le_refl _)]
    rfl
  · rw [List.getElem?_eq_none_iff.2 (Nat.le_of_lt h), List.getElem?_eq_none_iff.2 ?_]
    rw [List.length_append]
    exact h

theorem flag_of_at? {p : PlayerData} (h : s.at? pid = some p) : s.flag pid = p.matchmaking := by
  rw [flag, h, Option.any_some]

/-- The request moves what a player's requests depend on as its observation says. -/
def Observed (rate : Rate) (s : Accounts) (c : AccountCall) (pid : UInt64) : Prop :=
  (s.call rate c).1.view pid = c.observe pid s.playerDatabase.length (s.flag pid)

theorem signup_observed (s : Accounts) (pid : UInt64) : Observed rate s .signup pid := by
  by_cases h : maxPids ≤ s.playerDatabase.length
  · simp only [Observed, call, signup, AccountCall.observe, view, h, ↓reduceIte]
  · simp only [Observed, call, signup, AccountCall.observe, view, h, ↓reduceIte, flag_signup,
      List.length_append, List.length_singleton]

theorem info_observed (s : Accounts) (pid pid' : UInt64) :
    Observed rate s (.info pid) pid' := by
  simp only [Observed, call, info, AccountCall.observe, view]
  cases s.at? pid <;> rfl

theorem login_observed (s : Accounts) (pid pid' : UInt64) (now : Int) :
    Observed rate s (.login pid now) pid' := by
  simp only [Observed, call, login, AccountCall.observe, view]
  cases h : s.at? pid with
  | none =>
    have habsent : ¬ (pid = pid' ∧ pid'.toNat < s.playerDatabase.length) := by
      rintro ⟨rfl, hlt⟩
      obtain ⟨p, hp⟩ := at?_of_lt hlt
      cases h.symm.trans hp
    rw [if_neg habsent]
  | some p =>
    have hlt := at?_lt h
    cases hp : p.matchmaking with
    | true =>
      simp only [hp, ↓reduceIte]
      split
      · next he => rw [← he.1, flag_of_at? h, hp]
      · rfl
    | false =>
      simp only [hp, Bool.false_eq_true, ↓reduceIte]
      have hlength := s.update_length pid fun _ => ⟨p.elo, true, s.sessionCount, now + 1800⟩
      have hflag := flag_update_set (f := fun _ => ⟨p.elo, true, s.sessionCount, now + 1800⟩)
        true (fun _ => rfl) h pid'
      by_cases he : pid = pid'
      · subst he
        simp only [↓reduceIte] at hflag
        simp only [hlt, and_self, ↓reduceIte]
        exact Prod.ext hlength hflag
      · simp only [he, ↓reduceIte] at hflag
        simp only [he, false_and, ↓reduceIte]
        exact Prod.ext hlength hflag

theorem lower_view (hflag : s.flag pid = true) (pid' : UInt64) :
    (s.update pid fun p => { p with matchmaking := false }).view pid' =
      if pid = pid' then (s.playerDatabase.length, false) else s.view pid' := by
  cases h : s.at? pid with
  | none =>
    rw [flag, h] at hflag
    cases hflag
  | some p =>
    rw [view, update_length, flag_update_set false (by intro p; rfl) h]
    split <;> rfl

theorem cancel_open {token : MatchToken} (hflag : s.flag token.pid = true)
    (hm : token.matched = false) :
    (s.cancel token).1 = s.update token.pid fun p => { p with matchmaking := false } := by
  cases h : s.at? token.pid with
  | none =>
    rw [flag, h] at hflag
    cases hflag
  | some p =>
    rw [flag_of_at? h] at hflag
    simp only [cancel, h, hflag, hm, Bool.not_false, Bool.and_self, ↓reduceIte]

theorem cancel_stale {token : MatchToken}
    (hstale : ¬ (s.flag token.pid = true ∧ token.matched = false)) :
    (s.cancel token).1 = s := by
  simp only [cancel]
  split
  · rfl
  · next p h =>
    split
    · next hgo =>
      obtain ⟨hp, hm⟩ := Bool.and_eq_true_iff.1 hgo
      rw [Bool.not_eq_true'] at hm
      exact (hstale ⟨(flag_of_at? h).trans hp, hm⟩).elim
    · rfl

theorem cancel_observed (s : Accounts) (token : MatchToken) (pid : UInt64) :
    Observed rate s (.cancel token) pid := by
  simp only [Observed, call, AccountCall.observe]
  by_cases hopen : s.flag token.pid = true ∧ token.matched = false
  · obtain ⟨hflag, hm⟩ := hopen
    rw [cancel_open hflag hm, lower_view hflag]
    simp only [hm, and_true, view]
  · rw [cancel_stale hopen]
    split
    · next he =>
      obtain ⟨rfl, hm⟩ := he
      rw [view, Bool.eq_false_iff.2 fun hf => hopen ⟨hf, hm⟩]
    · rfl

theorem rateable_iff {r : GameResult} :
    r.rateable s.playerDatabase.length = true ↔
      ∃ id₁ id₂ rest p₁ p₂, r.players = id₁ :: id₂ :: rest ∧ s.at? id₁ = some p₁ ∧
        s.at? id₂ = some p₂ := by
  constructor
  · intro h
    rw [GameResult.rateable] at h
    split at h
    · next id₁ id₂ rest hplayers =>
      obtain ⟨h₁, h₂⟩ := of_decide_eq_true h
      obtain ⟨p₁, hp₁⟩ := at?_of_lt h₁
      obtain ⟨p₂, hp₂⟩ := at?_of_lt h₂
      exact ⟨id₁, id₂, rest, p₁, p₂, hplayers, hp₁, hp₂⟩
    · cases h
  · rintro ⟨id₁, id₂, rest, p₁, p₂, hplayers, hp₁, hp₂⟩
    rw [GameResult.rateable, hplayers]
    exact decide_eq_true ⟨at?_lt hp₁, at?_lt hp₂⟩

def Accepts (s : Accounts) (token : ResultToken) : Prop :=
  s.flag token.pid = true ∧ token.result.rateable s.playerDatabase.length = true

theorem submit_accepted (rate : Rate) {token : ResultToken} (h : s.Accepts token) :
    ∃ id₁ id₂ rest p₁ p₂, token.result.players = id₁ :: id₂ :: rest ∧ s.at? id₁ = some p₁ ∧
      s.at? id₂ = some p₂ ∧ (s.submit rate token).1 =
        (s.apply rate id₁ id₂ p₁ p₂ token.result).update token.pid
          fun p => { p with matchmaking := false } := by
  obtain ⟨hflag, hrate⟩ := h
  obtain ⟨id₁, id₂, rest, p₁, p₂, hplayers, hp₁, hp₂⟩ := rateable_iff.1 hrate
  refine ⟨id₁, id₂, rest, p₁, p₂, hplayers, hp₁, hp₂, ?_⟩
  cases h : s.at? token.pid with
  | none =>
    rw [flag, h] at hflag
    cases hflag
  | some p =>
    rw [flag_of_at? h] at hflag
    simp only [submit, h, hflag, ↓reduceIte, hplayers, hp₁, hp₂]

theorem submit_stale (rate : Rate) {token : ResultToken} (hstale : ¬ s.Accepts token) :
    (s.submit rate token).1 = s := by
  simp only [submit]
  split
  · rfl
  · next p h =>
    split
    · next hp =>
      have hrate : token.result.rateable s.playerDatabase.length ≠ true :=
        fun hr => hstale ⟨(flag_of_at? h).trans hp, hr⟩
      split
      · next id₁ id₂ rest hplayers =>
        split
        · next p₁ p₂ hp₁ hp₂ =>
          exact (hrate (rateable_iff.2 ⟨id₁, id₂, rest, p₁, p₂, hplayers, hp₁, hp₂⟩)).elim
        · rfl
      · rfl
    · rfl

theorem submit_observed (s : Accounts) (token : ResultToken) (pid : UInt64) :
    Observed rate s (.submit token) pid := by
  simp only [Observed, call, AccountCall.observe]
  by_cases haccepts : s.Accepts token
  · obtain ⟨id₁, id₂, rest, p₁, p₂, -, -, -, hs⟩ := submit_accepted rate haccepts
    obtain ⟨hflag, hrate⟩ := haccepts
    have hview := s.apply_view rate id₁ id₂ p₁ p₂ token.result
    have hflag' := (Prod.mk.inj (hview token.pid)).2.trans hflag
    rw [hs, lower_view hflag', hview, (Prod.mk.inj (hview pid)).1]
    simp only [hrate, and_true, view]
  · rw [submit_stale rate haccepts]
    split
    · next he =>
      obtain ⟨rfl, hrate⟩ := he
      rw [view, Bool.eq_false_iff.2 fun hf => haccepts ⟨hf, hrate⟩]
    · rfl

theorem call_observed (s : Accounts) (c : AccountCall) (pid : UInt64) :
    Observed rate s c pid := by
  cases c with
  | signup => exact signup_observed s pid
  | info pid' => exact info_observed s pid' pid
  | login pid' now => exact login_observed s pid' pid now
  | submit token => exact submit_observed s token pid
  | cancel token => exact cancel_observed s token pid

theorem run_concat (s : Accounts) (calls : List AccountCall) (c : AccountCall) :
    s.run rate (calls ++ [c]) = ((s.run rate calls).call rate c).1 := by
  rw [run, List.foldl_append]
  rfl

theorem run_view (rate : Rate) (s : Accounts) (calls : List AccountCall) (pid : UInt64) :
    (s.run rate calls).view pid = s.history calls pid := by
  induction calls using List.reverseRecOn with
  | nil => rfl
  | append_singleton calls c ih =>
    rw [run_concat, history, List.foldl_append]
    exact (call_observed _ c pid).trans (congrArg (fun h => c.observe pid h.1 h.2) ih)

theorem current_iff (rate : Rate) (s : Accounts) (calls : List AccountCall)
    (token : ResultToken) : s.Current calls token ↔ (s.run rate calls).Accepts token := by
  rw [Current, ← run_view rate]
  rfl

end Views

end Accounts

end WebGameServer
