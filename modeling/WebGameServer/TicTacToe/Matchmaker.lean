import Mathlib.Algebra.Order.Group.Abs
import WebGameServer.Library.Pairing
import WebGameServer.MatchmakingServer.Agreement
import WebGameServer.TicTacToe.Json

namespace WebGameServer
set_option autoImplicit true

/-- `tic_tac_toe_player_traits`, with the connection handles of any endpoint. -/
abbrev ticTacToeTraits (H : Type) [DecidableEq H] : Traits where
  Hdl := H
  PlayerId := UInt64
  SessionId := UInt64
  Json := Json

/-- `tic_tac_toe_player_traits::id::session_id`. -/
abbrev TicTacToeSession := UInt64

/-- `tic_tac_toe_matchmaker::session_data`, without the flag that nothing reads. -/
structure TicTacToeSessionData where
  rating : Int32

/-- The constructor leaves the rating as it finds it if the data has none. -/
def TicTacToeSessionData.construct (lib : JsonLibrary) (uninitialised : Int32) (data : Json) :
    TicTacToeSessionData where
  rating :=
    match data.atKey "rating" >>= Json.getInt lib with
    | .value rating => rating
    | _ => uninitialised

/-- An entry of the map of the sessions. -/
abbrev TicTacToeEntry := TicTacToeSession × TicTacToeSessionData

structure TicTacToeMatchmaker where
  elapsedTime : Int

namespace TicTacToeMatchmaker

variable {H : Type} [DecidableEq H]

def canMatch (sessionMap : List TicTacToeEntry) : Bool := decide (1 < sessionMap.length)

/-- `std::abs` of the difference of two ratings. Both operations can overflow. -/
def score (rating rating' : Int32) : Outcome Empty Int :=
  let d := rating.toInt - rating'.toInt
  if -2 ^ 31 < d ∧ d < 2 ^ 31 then .value |d| else .undefined

/-- The body of the inner loop on `min_score` and `partner`, which has no value at first. -/
def scanStep (matched : List TicTacToeSession) (rating : Int32)
    (best : Int × Option TicTacToeSession) (entry : TicTacToeEntry) :
    Outcome Empty (Int × Option TicTacToeSession) :=
  if entry.1 ∈ matched then .value best
  else do
    let score ← score rating entry.2.rating
    return if score < best.1 then (score, some entry.1) else best

def gameData : Json := .object [("matched", .boolean true)]

/-- The outer loop. To read `partner` before it has a value is undefined. -/
def matchLoop (H : Type) [DecidableEq H] (matched : List TicTacToeSession)
    (gameList : List (MatchedGame (ticTacToeTraits H))) :
    List TicTacToeEntry → Outcome Empty (List (MatchedGame (ticTacToeTraits H)))
  | [] => .value gameList
  | entry :: rest =>
    if entry.1 ∈ matched then matchLoop H matched gameList rest
    else do
      let (minScore, partner) ← rest.foldlM (scanStep matched entry.2.rating) (100000, none)
      if minScore ≤ 250 then
        match partner with
        | none => .undefined
        | some partner =>
          matchLoop H (partner :: entry.1 :: matched)
            (gameList ++ [⟨[entry.1, partner], entry.1, gameData⟩]) rest
      else matchLoop H matched gameList rest

/-- `match`, with the entries of the session map in the order of its iterator. -/
def matchSessions (mm : TicTacToeMatchmaker)
    (gameList : List (MatchedGame (ticTacToeTraits H))) (sessionMap : List TicTacToeEntry)
    (deltaTime : Int) :
    Outcome Empty (TicTacToeMatchmaker × List (MatchedGame (ticTacToeTraits H))) :=
  let elapsedTime := mm.elapsedTime + deltaTime
  if 5000 < elapsedTime then do
    let gameList ← matchLoop H [] gameList sessionMap
    return (⟨0⟩, gameList)
  else .value (⟨elapsedTime⟩, gameList)

def getCancelData : Json := .object [("matched", .boolean false)]

/-- The distance of two ratings without the bounds of their type. -/
def ratingDistance (a b : TicTacToeEntry) : Int := |a.2.rating.toInt - b.2.rating.toInt|

/-- The difference of two ratings is an `int`. -/
def FitsInt (a b : TicTacToeEntry) : Prop :=
  -2 ^ 31 ≤ a.2.rating.toInt - b.2.rating.toInt ∧ a.2.rating.toInt - b.2.rating.toInt < 2 ^ 31

instance (a b : TicTacToeEntry) : Decidable (FitsInt a b) := inferInstanceAs (Decidable (_ ∧ _))

def gameOf (p : TicTacToeEntry × TicTacToeEntry) : MatchedGame (ticTacToeTraits H) :=
  ⟨[p.1.1, p.2.1], p.1.1, gameData⟩

variable {matched : List TicTacToeSession} {a : TicTacToeEntry} {l : List TicTacToeEntry}
  {games games' : List (MatchedGame (ticTacToeTraits H))}

theorem ratingDistance_comm (a b : TicTacToeEntry) : ratingDistance a b = ratingDistance b a :=
  abs_sub_comm _ _

theorem score_eq_value {b : TicTacToeEntry} (h : score a.2.rating b.2.rating = .value s) :
    s = ratingDistance a b := by
  simp only [score] at h
  split at h
  · exact (Outcome.value.inj h).symm
  · cases h

theorem score_isValue {b : TicTacToeEntry} (hab : FitsInt a b) (hba : FitsInt b a) :
    (score a.2.rating b.2.rating).IsValue := by
  have hfit : -2 ^ 31 < a.2.rating.toInt - b.2.rating.toInt ∧
      a.2.rating.toInt - b.2.rating.toInt < 2 ^ 31 := by
    obtain ⟨-, hlt⟩ := hab
    obtain ⟨-, hlt'⟩ := hba
    constructor <;> omega
  simp only [score, hfit, and_self, ↓reduceIte]
  exact ⟨_, rfl⟩

/-- What the inner loop leaves: the minimum of the scores below its start, with a session that
has it. -/
theorem scan_value {best best' : Int × Option TicTacToeSession}
    (h : l.foldlM (scanStep matched a.2.rating) best = .value best') :
    best'.1 ≤ best.1 ∧ (∀ c ∈ l, c.1 ∉ matched → best'.1 ≤ ratingDistance a c) ∧
      (best' = best ∨
        ∃ b ∈ l, b.1 ∉ matched ∧ best'.2 = some b.1 ∧ best'.1 = ratingDistance a b) := by
  induction l generalizing best with
  | nil =>
    cases h
    exact ⟨le_refl _, List.forall_mem_nil _, .inl rfl⟩
  | cons c l ih =>
    rw [List.foldlM_cons] at h
    obtain ⟨next, hnext, h⟩ := Outcome.bind_eq_value.1 h
    obtain ⟨hle, hmin, hfrom⟩ := ih h
    simp only [scanStep] at hnext
    by_cases hc : c.1 ∈ matched
    · rw [if_pos hc] at hnext
      cases hnext
      refine ⟨hle, List.forall_mem_cons.2 ⟨fun hn => (hn hc).elim, hmin⟩, ?_⟩
      rcases hfrom with he | ⟨b, hb, hrest⟩
      · exact .inl he
      · exact .inr ⟨b, List.mem_cons_of_mem _ hb, hrest⟩
    · rw [if_neg hc] at hnext
      obtain ⟨s, hs, hnext⟩ := Outcome.bind_eq_value.1 hnext
      cases score_eq_value hs
      by_cases hlt : ratingDistance a c < best.1
      · rw [if_pos hlt] at hnext
        cases hnext
        refine ⟨hle.trans hlt.le, List.forall_mem_cons.2 ⟨fun _ => hle, hmin⟩, .inr ?_⟩
        rcases hfrom with rfl | ⟨b, hb, hrest⟩
        · exact ⟨c, List.mem_cons_self, hc, rfl, rfl⟩
        · exact ⟨b, List.mem_cons_of_mem _ hb, hrest⟩
      · rw [if_neg hlt] at hnext
        cases hnext
        refine ⟨hle, List.forall_mem_cons.2 ⟨fun _ => hle.trans (not_lt.1 hlt), hmin⟩, ?_⟩
        rcases hfrom with he | ⟨b, hb, hrest⟩
        · exact .inl he
        · exact .inr ⟨b, List.mem_cons_of_mem _ hb, hrest⟩

theorem scan_isValue (matched : List TicTacToeSession)
    (hfit : ∀ b ∈ l, FitsInt a b ∧ FitsInt b a)
    (best : Int × Option TicTacToeSession) :
    (l.foldlM (scanStep matched a.2.rating) best).IsValue := by
  apply Outcome.foldlM_isValue
  intro best b hb
  simp only [scanStep]
  split
  · exact ⟨_, rfl⟩
  · obtain ⟨s, hs⟩ := score_isValue (hfit b hb).1 (hfit b hb).2
    rw [hs]
    exact ⟨_, rfl⟩

/-- A minimum that is small enough has come with a partner, a larger one with none near. -/
theorem scan_cases {best : Int × Option TicTacToeSession}
    (h : l.foldlM (scanStep matched a.2.rating) (100000, none) = .value best) :
    (best.1 ≤ 250 ∧ ∃ b ∈ l, b.1 ∉ matched ∧ best.2 = some b.1 ∧ ratingDistance a b ≤ 250 ∧
      ∀ c ∈ l, c.1 ∉ matched → ratingDistance a b ≤ ratingDistance a c) ∨
    (250 < best.1 ∧ ∀ c ∈ l, c.1 ∉ matched → 250 < ratingDistance a c) := by
  obtain ⟨-, hmin, hfrom⟩ := scan_value h
  rcases le_or_gt best.1 250 with hle | hgt
  · refine .inl ⟨hle, ?_⟩
    rcases hfrom with rfl | ⟨b, hb, hbm, hsome, he⟩
    · exact absurd hle (by decide)
    · exact ⟨b, hb, hbm, hsome, he ▸ hle, fun c hc hcm => he ▸ hmin c hc hcm⟩
  · exact .inr ⟨hgt, fun c hc hcm => hgt.trans_le (hmin c hc hcm)⟩

theorem matchLoop_pairing (h : matchLoop H matched games l = .value games') :
    ∃ ps, Pairing Prod.fst ratingDistance 250 {k | k ∈ matched} l ps ∧
      games' = games ++ ps.map gameOf := by
  induction l generalizing matched games with
  | nil =>
    cases h
    exact ⟨[], .nil, (List.append_nil _).symm⟩
  | cons a l ih =>
    rw [matchLoop] at h
    by_cases ha : a.1 ∈ matched
    · rw [if_pos ha] at h
      obtain ⟨ps, hps, he⟩ := ih h
      exact ⟨ps, .taken ha hps, he⟩
    · rw [if_neg ha] at h
      obtain ⟨best, hbest, h⟩ := Outcome.bind_eq_value.1 h
      obtain ⟨minScore, partner⟩ := best
      rcases scan_cases hbest with ⟨hle, b, hb, hbm, hsome, hnear, hclose⟩ | ⟨hgt, hfar⟩
      · cases hsome
        simp only [if_pos hle] at h
        obtain ⟨ps, hps, he⟩ := ih h
        refine ⟨(a, b) :: ps, .pair ha hb hbm hclose hnear ?_, ?_⟩
        · have htaken : insert b.1 (insert a.1 {k | k ∈ matched}) =
              {k | k ∈ b.1 :: a.1 :: matched} := by
            ext k
            simp only [Set.mem_insert_iff, Set.mem_ofPred_eq, List.mem_cons]
          rw [htaken]
          exact hps
        · rw [he, List.map_cons, List.append_assoc]
          rfl
      · simp only [if_neg (not_le.2 hgt)] at h
        obtain ⟨ps, hps, he⟩ := ih h
        exact ⟨ps, .alone ha hfar hps, he⟩

theorem matchLoop_isValue (matched : List TicTacToeSession)
    (games : List (MatchedGame (ticTacToeTraits H))) (hfit : ∀ a ∈ l, ∀ b ∈ l, FitsInt a b) :
    (matchLoop H matched games l).IsValue := by
  induction l generalizing matched games with
  | nil => exact ⟨_, rfl⟩
  | cons a l ih =>
    have hrest : ∀ a ∈ l, ∀ b ∈ l, FitsInt a b :=
      fun c hc b hb => hfit c (List.mem_cons_of_mem _ hc) b (List.mem_cons_of_mem _ hb)
    have hscan : ∀ b ∈ l, FitsInt a b ∧ FitsInt b a := by
      intro b hb
      have hb' := List.mem_cons_of_mem a hb
      exact ⟨hfit a List.mem_cons_self b hb', hfit b hb' a List.mem_cons_self⟩
    rw [matchLoop]
    split
    · exact ih _ _ hrest
    · obtain ⟨best, hbest⟩ := scan_isValue matched hscan (100000, none)
      obtain ⟨minScore, partner⟩ := best
      rw [hbest, Outcome.value_bind]
      rcases scan_cases hbest with ⟨hle, b, -, -, hsome, -⟩ | ⟨hgt, -⟩
      · cases hsome
        simp only [if_pos hle]
        exact ih _ _ hrest
      · simp only [if_neg (not_le.2 hgt)]
        exact ih _ _ hrest

def sessionsOf (games : List (MatchedGame (ticTacToeTraits H))) : List TicTacToeSession :=
  games.flatMap MatchedGame.sessions

theorem sessionsOf_map (ps : List (TicTacToeEntry × TicTacToeEntry)) :
    sessionsOf (ps.map gameOf : List (MatchedGame (ticTacToeTraits H))) =
      pairKeys Prod.fst ps := by
  rw [sessionsOf, List.flatMap_map]
  rfl

/-- The games are a maximal matching of the sessions by rating, made in the order of the map. -/
structure RatingMatching (sessionMap : List TicTacToeEntry)
    (games : List (MatchedGame (ticTacToeTraits H))) : Prop where
  pairs : ∀ game ∈ games, ∃ a ∈ sessionMap, ∃ b ∈ sessionMap, a.1 ≠ b.1 ∧
    game.sessions = [a.1, b.1] ∧ game.session ∈ game.sessions ∧ ratingDistance a b ≤ 250
  once : (sessionsOf games).Nodup
  maximal : ∀ a ∈ sessionMap, ∀ b ∈ sessionMap, a.1 ≠ b.1 → a.1 ∉ sessionsOf games →
    b.1 ∉ sessionsOf games → 250 < ratingDistance a b
  closest : ∀ before game after, games = before ++ game :: after →
    ∃ pre a post, sessionMap = pre ++ a :: post ∧ ∃ b ∈ post, game.sessions = [a.1, b.1] ∧
      ∀ c ∈ post, c.1 ∉ sessionsOf before → ratingDistance a b ≤ ratingDistance a c

theorem ratingMatching_of_pairing {ps : List (TicTacToeEntry × TicTacToeEntry)}
    (h : Pairing Prod.fst ratingDistance 250 {k | k ∈ []} l ps) (hn : (l.map Prod.fst).Nodup) :
    RatingMatching (H := H) l (ps.map gameOf) where
  pairs := by
    intro game hgame
    obtain ⟨p, hp, rfl⟩ := List.mem_map.1 hgame
    obtain ⟨ha, hb, -, -, hnear⟩ := h.mem hp
    have hkeys := h.nodup hn
    refine ⟨p.1, ha, p.2, hb, fun he => ?_, rfl, List.mem_cons_self, hnear⟩
    obtain ⟨before, after, rfl⟩ := List.append_of_mem hp
    simp only [pairKeys, List.flatMap_append, List.flatMap_cons, he] at hkeys
    have hpair := (List.nodup_append.1 (List.nodup_append.1 hkeys).2.1).1
    exact (List.nodup_cons.1 hpair).1 List.mem_cons_self
  once := by
    rw [sessionsOf_map]
    exact h.nodup hn
  maximal a ha b hb hab hag hbg := by
    rw [sessionsOf_map] at hag hbg
    exact h.maximal ratingDistance_comm ha hb hab List.not_mem_nil List.not_mem_nil hag hbg
  closest before game after he := by
    obtain ⟨before, rest, rfl, rfl, hrest⟩ := List.map_eq_append_iff.1 he
    obtain ⟨p, after, rfl, rfl, rfl⟩ := List.map_eq_cons_iff.1 hrest
    obtain ⟨pre, post, hl, hb, hclose⟩ := h.closest
    refine ⟨pre, p.1, post, hl, p.2, hb, rfl, fun c hc hcb => ?_⟩
    rw [sessionsOf_map] at hcb
    exact hclose c hc List.not_mem_nil hcb

theorem matchSessions_eq {mm mm' : TicTacToeMatchmaker} {deltaTime : Int}
    (h : mm.matchSessions games l deltaTime = .value (mm', games')) :
    (mm.elapsedTime + deltaTime ≤ 5000 ∧ mm' = ⟨mm.elapsedTime + deltaTime⟩ ∧ games' = games) ∨
    (5000 < mm.elapsedTime + deltaTime ∧ mm' = ⟨0⟩ ∧
      ∃ ps, Pairing Prod.fst ratingDistance 250 {k | k ∈ []} l ps ∧
        games' = games ++ ps.map gameOf) := by
  simp only [matchSessions] at h
  split at h
  · next ht =>
    obtain ⟨all, hall, h⟩ := Outcome.bind_eq_value.1 h
    cases h
    exact .inr ⟨ht, rfl, matchLoop_pairing hall⟩
  · next ht =>
    cases h
    exact .inl ⟨not_lt.1 ht, rfl, rfl⟩

/-- A call of `match` after more than five seconds appends a maximal matching to the games. -/
theorem match_maximal (mm : TicTacToeMatchmaker) (sessionMap : List TicTacToeEntry)
    (gameList : List (MatchedGame (ticTacToeTraits H))) (deltaTime : Int)
    (hn : (sessionMap.map Prod.fst).Nodup)
    (hfit : ∀ a ∈ sessionMap, ∀ b ∈ sessionMap, FitsInt a b)
    (ht : 5000 < mm.elapsedTime + deltaTime) :
    ∃ games, mm.matchSessions gameList sessionMap deltaTime = .value (⟨0⟩, gameList ++ games) ∧
      RatingMatching sessionMap games := by
  obtain ⟨all, hall⟩ := matchLoop_isValue [] gameList hfit
  obtain ⟨ps, hps, rfl⟩ := matchLoop_pairing hall
  refine ⟨ps.map gameOf, ?_, ratingMatching_of_pairing hps hn⟩
  simp only [matchSessions, ht, ↓reduceIte, hall, Outcome.value_bind, Outcome.pure_eq]

/-- Three sessions, of which the first and the last are nearest to each other. -/
theorem match_maximal_three :
    ∃ games, (⟨4000⟩ : TicTacToeMatchmaker).matchSessions (H := Nat) []
        [(7, ⟨1000⟩), (8, ⟨1200⟩), (9, ⟨1100⟩)] 2000 = .value (⟨0⟩, games) ∧
      RatingMatching [(7, ⟨1000⟩), (8, ⟨1200⟩), (9, ⟨1100⟩)] games ∧
      games = [⟨[7, 9], 7, gameData⟩] := by
  obtain ⟨games, hvalue, hmatching⟩ := match_maximal (H := Nat) ⟨4000⟩
    [(7, ⟨1000⟩), (8, ⟨1200⟩), (9, ⟨1100⟩)] [] 2000 (by decide) (by decide) (by decide)
  refine ⟨games, hvalue, hmatching, ?_⟩
  have hrun : (⟨4000⟩ : TicTacToeMatchmaker).matchSessions (H := Nat) []
      [(7, ⟨1000⟩), (8, ⟨1200⟩), (9, ⟨1100⟩)] 2000 = .value (⟨0⟩, [⟨[7, 9], 7, gameData⟩]) := rfl
  rw [hrun] at hvalue
  exact (Prod.mk.inj (Outcome.value.inj hvalue)).2.symm

/-- The list has the entries of the map, in some order. -/
structure Lists (sessions : Map TicTacToeSession TicTacToeSessionData)
    (entries : List TicTacToeEntry) : Prop where
  nodup : (entries.map Prod.fst).Nodup
  lookup : ∀ sid d, (sid, d) ∈ entries ↔ sessions.lookup sid = some d

end TicTacToeMatchmaker

open TicTacToeMatchmaker

/-- `tic_tac_toe_matchmaker` as the type parameter of the matchmaking server, which passes it
empty lists. It sends no messages. -/
def ticTacToeMatchmaker (H : Type) [DecidableEq H] (lib : JsonLibrary) (uninitialised : Int32) :
    Matchmaker (ticTacToeTraits H) TicTacToeSessionData where
  construct := .construct lib uninitialised
  isValid _ := true
  getCancelData := TicTacToeMatchmaker.getCancelData
  returns sessions deltaTime games msgs := msgs = [] ∧
    ∃ (mm mm' : TicTacToeMatchmaker) (entries : List TicTacToeEntry), Lists sessions entries ∧
      mm.matchSessions [] entries deltaTime = .value (mm', games)

theorem ticTacToeMatchmaker_draws {H : Type} [DecidableEq H] (lib : JsonLibrary)
    (uninitialised : Int32) : (ticTacToeMatchmaker H lib uninitialised).Draws := by
  rintro sessions deltaTime games msgs ⟨-, mm, mm', entries, hentries, hmatch⟩
  rcases matchSessions_eq hmatch with ⟨-, -, rfl⟩ | ⟨-, -, ps, hps, rfl⟩
  · exact ⟨.nil, List.forall_mem_nil _⟩
  rw [List.nil_append]
  have hmatching := ratingMatching_of_pairing (H := H) hps hentries.nodup
  constructor
  · have honce := hmatching.once
    rw [sessionsOf, List.nodup_flatMap] at honce
    exact honce.2
  · intro game hgame sid hsid
    obtain ⟨a, ha, b, hb, -, hsessions, -⟩ := hmatching.pairs game hgame
    rw [hsessions, List.mem_cons, List.mem_singleton] at hsid
    apply (Map.mem_keys_iff _).2
    rcases hsid with rfl | rfl
    · exact ⟨a.2, (hentries.lookup a.1 a.2).1 ha⟩
    · exact ⟨b.2, (hentries.lookup b.1 b.2).1 hb⟩

end WebGameServer
