import WebGameServer.BaseServer.Authenticity
import WebGameServer.BaseServer.Completion

namespace WebGameServer
set_option autoImplicit true

variable {T : Traits} {Worker Caller : Type} [DecidableEq Worker] [DecidableEq Caller]
  {cfg : Config T} {σ σ' : System T Worker Caller} {log evs : List (Event T)}

/-- The result of a session was passed to `complete_session`, and the texts for its players are
made from such a result. -/
structure Traceable (cfg : Config T) (σ : System T Worker Caller) : Prop where
  decided : ∀ sid r, Decided σ sid r → .completing sid r ∈ σ.log
  results : ∀ cid str, .result cid str ∈ σ.log → ∃ r, .completing cid.session r ∈ σ.log ∧
    str = cfg.getResultStr ⟨cid.player, r.session⟩ r.data

theorem Step.result_source (h : Step cfg σ evs σ') (he : .result cid str ∈ evs) :
    ∃ r, Decided σ cid.session r ∧ str = cfg.getResultStr ⟨cid.player, r.session⟩ r.data := by
  cases h with
  | transport h => exact (notMem_of_shows h.shows rfl he).elim
  | worker w h =>
    obtain ⟨r, hs, hr⟩ := h.result_stored he
    exact ⟨r, .inl hs, hr⟩
  | caller c h =>
    obtain ⟨r, hd, hr⟩ := h.result_deciding he
    exact ⟨r, .inr ⟨c, hd⟩, hr⟩
  | control h => exact (h.no_result he).elim

theorem Step.decided_source (h : Step cfg σ evs σ') (hl : SessionLocking σ)
    (hd : Decided σ' sid r) : Decided σ sid r ∨ .completing sid r ∈ evs := by
  rcases hd with hd | ⟨c, hd⟩
  · exact .inl (h.decided_before hl hd)
  · cases h with
    | transport h | worker w h | control h => exact .inl (.inr ⟨c, hd⟩)
    | caller c' h =>
      by_cases hc : c = c'
      · subst hc
        simp only [Function.update_self] at hd
        rcases h.deciding_before hd with hd | hm
        · exact .inl (.inr ⟨c, hd⟩)
        · exact .inr hm
      · exact .inl (.inr ⟨c, by simpa only [Function.update_of_ne hc] using hd⟩)

theorem traceable_invariant : (baseServer cfg).Invariant
    fun σ : System T Worker Caller => Traceable cfg σ where
  init := by
    rintro σ ⟨t, rfl⟩
    constructor
    · rintro sid r (hd | ⟨c, hd⟩)
      · cases hd
      · cases hd
    · intro cid str hm
      cases hm
  step {σ evs σ'} hr hσ h := by
    have hl := sessionLocking_invariant.reachable hr
    have hlog := h.log
    constructor
    · intro sid r hd
      rw [hlog]
      rcases h.decided_source hl hd with hd | hm
      · exact List.mem_append_left _ (hσ.decided sid r hd)
      · exact List.mem_append_right _ hm
    · intro cid str hm
      rw [hlog] at hm ⊢
      rcases List.mem_append.1 hm with hm | hm
      · obtain ⟨r, hc, hs⟩ := hσ.results cid str hm
        exact ⟨r, List.mem_append_left _ hc, hs⟩
      · obtain ⟨r, hd, hs⟩ := h.result_source hm
        exact ⟨r, List.mem_append_left _ (hσ.decided _ r hd), hs⟩

theorem Authentic.result_presented (hσ : Authentic cfg σ) (h : Step cfg σ evs σ')
    (he : .result cid str ∈ evs) : ∃ hdl, Presented cfg σ.log hdl cid := by
  cases h with
  | transport h => exact (notMem_of_shows h.shows rfl he).elim
  | worker w h =>
    have hpc := hσ.worker w
    generalize σ.worker w = pc at h hpc
    cases h with
    | lockedSession c hv hl hr =>
      simp only [List.mem_cons, reduceCtorEq, List.not_mem_nil, or_false, Event.result.injEq] at he
      obtain ⟨rfl, -⟩ := he
      exact ⟨_, _, _, hpc, hv⟩
    | setupConnectionId =>
      obtain ⟨old, -, ho⟩ := List.mem_map.1 he
      cases ho
    | _ => simp only [List.mem_cons, reduceCtorEq, List.not_mem_nil, or_self] at he
  | caller c h =>
    have hpc := hσ.caller c
    generalize σ.caller c = pc at h hpc
    cases h with
    | closePlayer =>
      cases List.mem_singleton.1 he
      exact ⟨_, hpc⟩
    | _ => simp only [List.mem_cons, reduceCtorEq, List.not_mem_nil, or_self] at he
  | control h => exact (notMem_of_shows h.shows rfl he).elim

theorem presented_invariant : (baseServer cfg).Invariant
    fun σ : System T Worker Caller =>
      ∀ cid str, .result cid str ∈ σ.log → ∃ hdl, Presented cfg σ.log hdl cid where
  init := by
    rintro σ ⟨t, rfl⟩ cid str hm
    cases hm
  step {σ evs σ'} hr hσ h := by
    intro cid str hm
    rw [h.log] at hm ⊢
    have hlog := List.subset_append_left σ.log evs
    rcases List.mem_append.1 hm with hm | hm
    · obtain ⟨hdl, hp⟩ := hσ cid str hm
      exact ⟨hdl, hp.mono hlog⟩
    · obtain ⟨hdl, hp⟩ := (authentic_invariant.reachable hr).result_presented h hm
      exact ⟨hdl, hp.mono hlog⟩

end WebGameServer
