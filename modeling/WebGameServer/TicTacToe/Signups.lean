import Mathlib.Data.List.Nodup
import WebGameServer.TicTacToe.Sessions

namespace WebGameServer
set_option autoImplicit true

/-- The id that an answer gives to a new player. -/
def AccountAnswer.newPid : AccountAnswer → Option UInt64
  | .signedUp pid => some pid
  | _ => Option.none

/-- The request is for the rating of the player or for a login token. -/
def Verifiers.Asks (v : Verifiers) (req : HttpRequest) (pid : UInt64) : Prop :=
  v.read req = some (.info pid) ∨ ∃ now, v.read req = some (.login pid now)

def HttpRequest.signsUp (req : HttpRequest) : Bool :=
  decide (dispatch req.method req.uri = .signup)

namespace Accounts

def answers (v : Verifiers) (rate : Rate) (s : Accounts) : List HttpRequest → List AccountAnswer
  | [] => []
  | req :: reqs => (s.handle v rate req).2 :: (s.handle v rate req).1.answers v rate reqs

def signedUp (v : Verifiers) (rate : Rate) (reqs : List HttpRequest) : List UInt64 :=
  (start.answers v rate reqs).filterMap AccountAnswer.newPid

section Signups

variable {v : Verifiers} {rate : Rate} {s : Accounts} {reqs : List HttpRequest}
  {req : HttpRequest} {pid : UInt64}

theorem answers_append (v : Verifiers) (rate : Rate) (s : Accounts)
    (reqs reqs' : List HttpRequest) : s.answers v rate (reqs ++ reqs') =
      s.answers v rate reqs ++ (s.serve v rate reqs).answers v rate reqs' := by
  induction reqs generalizing s with
  | nil => rfl
  | cons req reqs ih => exact congrArg _ (ih _)

theorem signedUp_concat (v : Verifiers) (rate : Rate) (reqs : List HttpRequest)
    (req : HttpRequest) : signedUp v rate (reqs ++ [req]) = signedUp v rate reqs ++
      ((start.serve v rate reqs).handle v rate req).2.newPid.toList := by
  rw [signedUp, answers_append, List.filterMap_append, answers, answers, signedUp]
  cases ((start.serve v rate reqs).handle v rate req).2 <;> rfl

theorem read_signup_iff : v.read req = some .signup ↔ req.signsUp = true := by
  rw [HttpRequest.signsUp, decide_eq_true_iff, Verifiers.read]
  cases dispatch req.method req.uri with
  | signup => exact ⟨fun _ => rfl, fun _ => rfl⟩
  | notAllowed | file =>
    constructor
    · intro h
      cases h
    · intro h
      cases h
  | info | login | submit | cancel =>
    constructor
    · intro h
      obtain ⟨x, -, he⟩ := Option.map_eq_some_iff.1 h
      cases he
    · intro h
      cases h

theorem call_other (rate : Rate) (s : Accounts) (c : AccountCall) (hc : c ≠ .signup) :
    (s.call rate c).1.playerDatabase.length = s.playerDatabase.length ∧
      (s.call rate c).2.newPid = none := by
  have hsize := congrArg Prod.fst (call_observed s c 0 : Observed rate s c 0)
  cases c with
  | signup => exact (hc rfl).elim
  | info pid =>
    refine ⟨hsize, ?_⟩
    simp only [call, info]
    split <;> rfl
  | login pid now =>
    constructor
    · simp only [AccountCall.observe] at hsize
      split at hsize <;> exact hsize
    · simp only [call, login]
      split
      · rfl
      · split <;> rfl
  | submit token =>
    constructor
    · simp only [AccountCall.observe] at hsize
      split at hsize <;> exact hsize
    · simp only [call, submit]
      repeat' split
      all_goals rfl
  | cancel token =>
    constructor
    · simp only [AccountCall.observe] at hsize
      split at hsize <;> exact hsize
    · simp only [call, cancel]
      repeat' split
      all_goals rfl

/-- A request signs up the next player, or it finds the database full or asks for something else. -/
theorem handle_signup (v : Verifiers) (rate : Rate) (s : Accounts) (req : HttpRequest) :
    (req.signsUp = true ∧ s.playerDatabase.length < maxPids ∧
      (s.handle v rate req).1.playerDatabase.length = s.playerDatabase.length + 1 ∧
      (s.handle v rate req).2.newPid = some (.ofNat s.playerDatabase.length)) ∨
    ((req.signsUp = true → maxPids ≤ s.playerDatabase.length) ∧
      (s.handle v rate req).1.playerDatabase.length = s.playerDatabase.length ∧
      (s.handle v rate req).2.newPid = none) := by
  cases hs : req.signsUp with
  | true =>
    simp only [handle, read_signup_iff.2 hs, call, signup]
    by_cases hfull : maxPids ≤ s.playerDatabase.length
    · rw [if_pos hfull]
      exact .inr ⟨fun _ => hfull, rfl, rfl⟩
    · rw [if_neg hfull]
      exact .inl ⟨trivial, Nat.lt_of_not_le hfull, List.length_append, rfl⟩
  | false =>
    rw [handle]
    cases hread : v.read req with
    | none =>
      refine .inr ⟨Bool.noConfusion, rfl, ?_⟩
      rcases refusal_cases (dispatch req.method req.uri) with he | he
      · exact congrArg AccountAnswer.newPid he
      · exact congrArg AccountAnswer.newPid he
    | some c =>
      have hc : c ≠ .signup := by
        rintro rfl
        cases hs.symm.trans (read_signup_iff.1 hread)
      exact .inr ⟨Bool.noConfusion, call_other rate s c hc⟩

theorem signedUp_eq (v : Verifiers) (rate : Rate) (reqs : List HttpRequest) :
    signedUp v rate reqs =
        (List.range (start.serve v rate reqs).playerDatabase.length).map UInt64.ofNat ∧
      (start.serve v rate reqs).playerDatabase.length =
        min (reqs.countP HttpRequest.signsUp) maxPids := by
  induction reqs using List.reverseRecOn with
  | nil => exact ⟨rfl, rfl⟩
  | append_singleton reqs req ih =>
    obtain ⟨hids, hsize⟩ := ih
    rw [signedUp_concat, hids, serve_concat, List.countP_append, List.countP_singleton]
    rcases handle_signup v rate (start.serve v rate reqs) req with
      ⟨hs, hroom, hgrown, hnew⟩ | ⟨hfull, hkept, hnew⟩
    · rw [hgrown, hnew, List.range_succ, List.map_append]
      refine ⟨rfl, ?_⟩
      rw [if_pos hs]
      omega
    · rw [hkept, hnew]
      refine ⟨List.append_nil _, ?_⟩
      split
      · next hs =>
        have hle := hfull hs
        omega
      · exact hsize

theorem mem_signedUp_iff (v : Verifiers) (rate : Rate) (reqs : List HttpRequest) (pid : UInt64) :
    pid ∈ signedUp v rate reqs ↔ ∃ p, (start.serve v rate reqs).at? pid = some p := by
  obtain ⟨hids, hsize⟩ := signedUp_eq v rate reqs
  have hle : (start.serve v rate reqs).playerDatabase.length ≤ maxPids := by
    rw [hsize]
    exact Nat.min_le_right _ _
  rw [hids, List.mem_map]
  constructor
  · rintro ⟨i, hi, rfl⟩
    have hlt := List.mem_range.1 hi
    apply at?_of_lt
    rwa [UInt64.toNat_ofNat_of_lt']
    exact Nat.lt_of_lt_of_le hlt (Nat.le_trans hle (by decide))
  · rintro ⟨p, hp⟩
    exact ⟨pid.toNat, List.mem_range.2 (at?_lt hp), UInt64.ofNat_toNat⟩

theorem asked_none_iff (hasks : v.Asks req pid) :
    (s.handle v rate req).2 = .none ↔ s.at? pid = none := by
  rw [handle]
  rcases hasks with hread | ⟨now, hread⟩
  · rw [hread]
    cases h : s.at? pid with
    | none => simp only [call, info, h]
    | some p => simp only [call, info, h, reduceCtorEq]
  · rw [hread]
    cases h : s.at? pid with
    | none => simp only [call, login, h]
    | some p =>
      simp only [call, login, h]
      split <;> simp only [reduceCtorEq]

/-- The ids that are given at sign-up are distinct, one for each such request until the database
is full, and for ever after exactly the players who have one are answered when they ask for their
rating or for a login token. -/
theorem signed_up_answered (v : Verifiers) (rate : Rate) (reqs : List HttpRequest) :
    (signedUp v rate reqs).Nodup ∧
    (signedUp v rate reqs).length = min (reqs.countP HttpRequest.signsUp) maxPids ∧
    (∀ later, signedUp v rate reqs <+: signedUp v rate (reqs ++ later)) ∧
    ∀ req pid, v.Asks req pid →
      (((start.serve v rate reqs).handle v rate req).2 = .none ↔ pid ∉ signedUp v rate reqs) := by
  obtain ⟨hids, hsize⟩ := signedUp_eq v rate reqs
  refine ⟨?_, ?_, ?_, ?_⟩
  · rw [hids]
    apply List.Nodup.map_on _ List.nodup_range
    intro i hi j hj he
    have hmax : maxPids < UInt64.size := by decide
    have hi := List.mem_range.1 hi
    have hj := List.mem_range.1 hj
    have hnat := congrArg UInt64.toNat he
    rwa [UInt64.toNat_ofNat_of_lt' (by omega), UInt64.toNat_ofNat_of_lt' (by omega)] at hnat
  · rw [hids, List.length_map, List.length_range, hsize]
  · intro later
    rw [signedUp, signedUp, answers_append, List.filterMap_append]
    exact List.prefix_append _ _
  · intro req pid hasks
    rw [asked_none_iff hasks, mem_signedUp_iff, ← Option.isSome_iff_exists,
      Bool.not_eq_true, Option.isSome_eq_false_iff, Option.isNone_iff_eq_none]

end Signups

end Accounts

end WebGameServer
