import WebGameServer.Library.Map

namespace WebGameServer
set_option autoImplicit true

/-- A member joins a group, with the note whether the group is created for it. -/
structure Join (K V : Type) where
  key : K
  member : V
  created : Bool

/-- The members are those that joined since the group was last created. -/
def JoinedSince {K V : Type} (log : List (Join K V)) (k : K) (members : Finset V) : Prop :=
  ∃ before founder after, log = before ++ ⟨k, founder, true⟩ :: after ∧
    (∀ j ∈ after, j.key = k → j.created = false) ∧
    ∀ v, v ∈ members ↔ ∃ j ∈ (⟨k, founder, true⟩ : Join K V) :: after, j.key = k ∧ j.member = v

/-- The groups of a table are what the log of the joins says. -/
def Enrolled {K V : Type} [DecidableEq K] (log : List (Join K V)) (groups : Map K (Finset V)) :
    Prop :=
  ∀ k members, groups.lookup k = some members → JoinedSince log k members

section Joins

variable {K V : Type} {log : List (Join K V)} {members members' : Finset V}

theorem JoinedSince.nonempty (h : JoinedSince log k members) : members.Nonempty := by
  obtain ⟨before, founder, after, -, -, hm⟩ := h
  exact ⟨founder, (hm founder).2 ⟨_, List.mem_cons_self, rfl, rfl⟩⟩

theorem JoinedSince.create (log : List (Join K V)) (k : K) (v : V) :
    JoinedSince (log ++ [⟨k, v, true⟩]) k {v} := by
  refine ⟨log, v, [], rfl, List.forall_mem_nil _, ?_⟩
  intro w
  simp only [Finset.mem_singleton, List.mem_singleton, exists_eq_left, true_and]
  exact eq_comm

theorem JoinedSince.append (h : JoinedSince log k members) (j : Join K V)
    (hj : j.key = k → j.created = false)
    (hm : ∀ v, v ∈ members' ↔ v ∈ members ∨ j.key = k ∧ j.member = v) :
    JoinedSince (log ++ [j]) k members' := by
  obtain ⟨before, founder, after, rfl, hlast, hold⟩ := h
  refine ⟨before, founder, after ++ [j], ?_, ?_, ?_⟩
  · rw [List.append_assoc, List.cons_append]
  · intro j' hj' hk
    rcases List.mem_append.1 hj' with hj' | hj'
    · exact hlast j' hj' hk
    · obtain rfl := List.mem_singleton.1 hj'
      exact hj hk
  · intro v
    rw [hm v, hold v, ← List.cons_append]
    constructor
    · rintro (⟨j', hj', hk⟩ | hk)
      · exact ⟨j', List.mem_append_left _ hj', hk⟩
      · exact ⟨j, List.mem_append_right _ (List.mem_singleton.2 rfl), hk⟩
    · rintro ⟨j', hj', hk⟩
      rcases List.mem_append.1 hj' with hj' | hj'
      · exact .inl ⟨j', hj', hk⟩
      · obtain rfl := List.mem_singleton.1 hj'
        exact .inr hk

theorem JoinedSince.skip (h : JoinedSince log k members) (j : Join K V) (hj : j.key ≠ k) :
    JoinedSince (log ++ [j]) k members := by
  apply h.append j
  · intro hk
    exact (hj hk).elim
  · intro v
    constructor
    · exact .inl
    · rintro (hv | ⟨hk, -⟩)
      · exact hv
      · exact (hj hk).elim

theorem JoinedSince.join [DecidableEq V] (h : JoinedSince log k members) (w : V) :
    JoinedSince (log ++ [⟨k, w, false⟩]) k (insert w members) := by
  apply h.append
  · intro _
    rfl
  · intro v
    rw [Finset.mem_insert, or_comm]
    simp only [true_and, eq_comm]

variable [DecidableEq K] {groups : Map K (Finset V)}

theorem Enrolled.empty : Enrolled log (∅ : Map K (Finset V)) := by
  intro k members h
  rw [Finmap.lookup_empty] at h
  cases h

theorem Enrolled.create (h : Enrolled log groups) (k : K) (v : V) :
    Enrolled (log ++ [⟨k, v, true⟩]) (groups.insert k {v}) := by
  intro a members ha
  rw [Map.lookup_insert_ite] at ha
  split at ha
  · next hk =>
    subst hk
    cases ha
    exact .create log a v
  · next hk => exact (h a members ha).skip _ (Ne.symm hk)

theorem Enrolled.join [DecidableEq V] (h : Enrolled log groups)
    (hk : groups.lookup k = some members) (v : V) :
    Enrolled (log ++ [⟨k, v, false⟩]) (groups.insert k (insert v members)) := by
  intro a members' ha
  rw [Map.lookup_insert_ite] at ha
  split at ha
  · next he =>
    subst he
    cases ha
    exact (h a members hk).join v
  · next he => exact (h a members' ha).skip _ (Ne.symm he)

theorem Enrolled.refuse (h : Enrolled log groups) (hk : groups.lookup k = none) (v : V) :
    Enrolled (log ++ [⟨k, v, false⟩]) groups := by
  intro a members ha
  apply (h a members ha).skip
  rintro rfl
  cases hk.symm.trans ha

theorem Enrolled.shrink {groups' : Map K (Finset V)} (h : Enrolled log groups)
    (hg : ∀ k members, groups'.lookup k = some members → groups.lookup k = some members) :
    Enrolled log groups' := by
  intro k members hk
  exact h k members (hg k members hk)

end Joins

end WebGameServer
