import Mathlib.Data.Int.Order.Basic
import Mathlib.Data.List.Pairwise

namespace WebGameServer
set_option autoImplicit true

/-! Expiry in two generations. All entries share the start of the current period; a visit at
which more than one period has passed moves every entry to the next generation, by two
generations at once after more than two periods, and starts a new period. -/

/-- The start of the current period, and the generation of an entry. -/
structure Period where
  start : Int
  generation : Nat

namespace Period

section

variable {unit limit t start : Int} {p : Period} {v w last : Int × Int}
  {visits : List (Int × Int)}

/-- The elapsed time at the first reading of a visit, in whole units. -/
def elapsed (unit start : Int) (visit : Int × Int) : Int := (visit.1 - start).tdiv unit

/-- A visit reads the clock twice; the second reading starts a new period. -/
def visit (unit limit : Int) (p : Period) (v : Int × Int) : Period :=
  if elapsed unit p.start v > limit then
    ⟨v.2, p.generation + if elapsed unit p.start v > 2 * limit then 2 else 1⟩
  else p

theorem visit_early (h : elapsed unit p.start v ≤ limit) : p.visit unit limit v = p :=
  if_neg (not_lt.2 h)

theorem visit_late (h : limit < elapsed unit p.start v) :
    p.visit unit limit v =
      ⟨v.2, p.generation + if elapsed unit p.start v > 2 * limit then 2 else 1⟩ :=
  if_pos h

theorem elapsed_le_iff (hu : 0 < unit) (hl : 0 ≤ limit) :
    elapsed unit start v ≤ limit ↔ v.1 - start < limit * unit + unit := by
  rw [elapsed]
  by_cases hd : 0 ≤ v.1 - start
  · rw [Int.tdiv_eq_ediv_of_nonneg hd]
    exact Int.ediv_le_iff_le_mul hu
  · have hneg := Int.tdiv_le_tdiv hu (Int.le_of_lt (Int.not_le.1 hd))
    rw [Int.zero_tdiv] at hneg
    apply iff_of_true (Int.le_trans hneg hl)
    have hpos := Int.mul_nonneg hl (Int.le_of_lt hu)
    omega

theorem elapsed_mono (hu : 0 < unit) (h : v.1 ≤ w.1) :
    elapsed unit start v ≤ elapsed unit start w :=
  Int.tdiv_le_tdiv hu (Int.sub_le_sub_right h start)

/-- The entry was made at `t`, and it has been moved at most once since. -/
def Young (unit limit t : Int) (p : Period) : Prop :=
  (p.generation = 0 ∧ (t - p.start).tdiv unit ≤ limit) ∨ (p.generation = 1 ∧ t ≤ p.start)

theorem Young.generation (h : Young unit limit t p) : p.generation < 2 := by
  rcases h with ⟨h, -⟩ | ⟨h, -⟩ <;> omega

theorem Young.visit (hu : 0 < unit) (hl : 0 ≤ limit) (h : Young unit limit t p) (ht : t ≤ v.1)
    (hv : v.1 ≤ v.2) (hlimit : v.1 - t ≤ limit * unit) :
    Young unit limit t (p.visit unit limit v) := by
  by_cases hearly : elapsed unit p.start v ≤ limit
  · rw [visit_early hearly]
    exact h
  · rcases h with ⟨hg, hs⟩ | ⟨hg, hs⟩
    · have hstart : t - p.start < limit * unit + unit := (elapsed_le_iff (v := (t, t)) hu hl).1 hs
      have honce : elapsed unit p.start v ≤ 2 * limit := by
        rw [elapsed_le_iff hu (by omega), Int.mul_assoc]
        omega
      rw [visit_late (not_le.1 hearly), if_neg (not_lt.2 honce), hg]
      exact .inr ⟨rfl, Int.le_trans ht hv⟩
    · apply (hearly ?_).elim
      rw [elapsed_le_iff hu hl]
      omega

theorem Young.foldl (hu : 0 < unit) (hl : 0 ≤ limit) (h : Young unit limit t p)
    (hvisits : ∀ v ∈ visits, t ≤ v.1 ∧ v.1 ≤ v.2 ∧ v.1 - t ≤ limit * unit) :
    Young unit limit t (visits.foldl (Period.visit unit limit) p) := by
  induction visits generalizing p with
  | nil => exact h
  | cons v visits ih =>
    obtain ⟨hv, hvisits⟩ := List.forall_mem_cons.1 hvisits
    exact ih (h.visit hu hl hv.1 hv.2.1 hv.2.2) hvisits

theorem foldl_early (h : ∀ v ∈ visits, elapsed unit p.start v ≤ limit) :
    visits.foldl (visit unit limit) p = p := by
  induction visits with
  | nil => rfl
  | cons v visits ih =>
    obtain ⟨hv, hvisits⟩ := List.forall_mem_cons.1 h
    rw [List.foldl_cons, visit_early hv, ih hvisits]

theorem generation_le_visit (p : Period) (v : Int × Int) :
    p.generation ≤ (p.visit unit limit v).generation := by
  rw [visit]
  split
  · exact Nat.le_add_right _ _
  · exact Nat.le_refl _

theorem generation_le_foldl (p : Period) :
    p.generation ≤ (visits.foldl (visit unit limit) p).generation := by
  induction visits generalizing p with
  | nil => exact Nat.le_refl _
  | cons v visits ih => exact Nat.le_trans (generation_le_visit p v) (ih _)

theorem generation_lt_visit (h : limit < elapsed unit p.start v) :
    p.generation < (p.visit unit limit v).generation := by
  rw [visit_late h]
  split
  · exact Nat.lt_add_of_pos_right Nat.two_pos
  · exact Nat.lt_succ_self _

theorem split_at_late (unit limit start : Int) (visits : List (Int × Int)) :
    (∀ v ∈ visits, elapsed unit start v ≤ limit) ∨
    ∃ before v after, visits = before ++ v :: after ∧
      (∀ w ∈ before, elapsed unit start w ≤ limit) ∧ limit < elapsed unit start v := by
  induction visits with
  | nil => exact .inl (List.forall_mem_nil _)
  | cons v visits ih =>
    by_cases hv : elapsed unit start v ≤ limit
    · rcases ih with ih | ⟨before, w, after, he, hb, hw⟩
      · exact .inl (List.forall_mem_cons.2 ⟨hv, ih⟩)
      · exact .inr ⟨v :: before, w, after, by rw [he]; rfl, List.forall_mem_cons.2 ⟨hv, hb⟩, hw⟩
    · exact .inr ⟨[], v, visits, rfl, List.forall_mem_nil _, not_le.1 hv⟩

theorem generation_lt_foldl_iff (p : Period) :
    p.generation < (visits.foldl (visit unit limit) p).generation ↔
      ∃ v ∈ visits, limit < elapsed unit p.start v := by
  rcases split_at_late unit limit p.start visits with h | ⟨before, v, after, rfl, hb, hv⟩
  · rw [foldl_early h]
    apply iff_of_false (Nat.lt_irrefl _)
    rintro ⟨v, hv, hlate⟩
    exact (h v hv).not_gt hlate
  · apply iff_of_true ?_ ⟨v, List.mem_append_right _ List.mem_cons_self, hv⟩
    rw [List.foldl_append, foldl_early hb, List.foldl_cons]
    exact Nat.lt_of_lt_of_le (generation_lt_visit hv) (generation_le_foldl _)

/-- The visits take place one after the other. -/
def InOrder (visits : List (Int × Int)) : Prop :=
  (visits.flatMap fun v => [v.1, v.2]).Pairwise (· ≤ ·)

theorem InOrder.readings (h : InOrder visits) (hv : v ∈ visits) : v.1 ≤ v.2 := by
  obtain ⟨before, after, rfl⟩ := List.append_of_mem hv
  rw [InOrder, List.flatMap_append, List.flatMap_cons] at h
  have hpair := (List.pairwise_append.1 (List.pairwise_append.1 h).2.1).1
  exact List.rel_of_pairwise_cons hpair (List.mem_singleton.2 rfl)

theorem InOrder.tail (h : InOrder (v :: visits)) : InOrder visits := by
  rw [InOrder, List.flatMap_cons] at h
  exact (List.pairwise_append.1 h).2.1

theorem InOrder.head_le (h : InOrder (v :: visits)) (hw : w ∈ visits) : v.2 ≤ w.1 := by
  rw [InOrder, List.flatMap_cons] at h
  have hmem : w.1 ∈ visits.flatMap fun v => [v.1, v.2] :=
    List.mem_flatMap.2 ⟨w, hw, List.mem_cons_self⟩
  exact (List.pairwise_append.1 h).2.2 _ (List.mem_cons_of_mem _ List.mem_cons_self) _ hmem

theorem InOrder.le_last (h : InOrder (visits ++ [last])) (hw : w ∈ visits ++ [last]) :
    w.1 ≤ last.1 := by
  rcases List.mem_append.1 hw with hw | hw
  · rw [InOrder, List.flatMap_append] at h
    have hmem : w.1 ∈ visits.flatMap fun v => [v.1, v.2] :=
      List.mem_flatMap.2 ⟨w, hw, List.mem_cons_self⟩
    exact (List.pairwise_append.1 h).2.2 _ hmem _ List.mem_cons_self
  · rw [List.mem_singleton.1 hw]

theorem last_mem_of_split (h : visits ++ [last] = before ++ v :: after) :
    last = v ∨ last ∈ after := by
  rcases List.eq_nil_or_concat after with rfl | ⟨after, x, rfl⟩
  · exact .inl (List.singleton_inj.1 (List.append_inj' h rfl).2)
  · rw [List.concat_eq_append, ← List.cons_append, ← List.append_assoc] at h
    rw [List.singleton_inj.1 (List.append_inj' h rfl).2, List.concat_eq_append]
    exact .inr (List.mem_append_right _ (List.mem_singleton.2 rfl))

/-- The first late visit after `start` comes more than two periods after it, or more than one
period before the last visit. -/
def Overdue (unit limit start : Int) (visits : List (Int × Int)) (last : Int × Int) : Prop :=
  ∃ before v after, visits ++ [last] = before ++ v :: after ∧
    (∀ w ∈ before, elapsed unit start w ≤ limit) ∧ limit < elapsed unit start v ∧
    (2 * limit < elapsed unit start v ∨ limit < elapsed unit v.2 last)

/-- An entry of the first generation is moved out exactly if a last visit finds it overdue. -/
theorem moved_out_iff_overdue (hu : 0 < unit) (hl : 0 ≤ limit)
    (horder : InOrder (visits ++ [last])) :
    2 ≤ ((visits ++ [last]).foldl (visit unit limit) ⟨start, 0⟩).generation ↔
      Overdue unit limit start visits last := by
  constructor
  · intro hmoved
    rcases split_at_late unit limit start (visits ++ [last]) with h | ⟨before, v, after, he, hb, hv⟩
    · rw [foldl_early h] at hmoved
      cases hmoved
    · refine ⟨before, v, after, he, hb, hv, ?_⟩
      by_cases htwice : 2 * limit < elapsed unit start v
      · exact .inl htwice
      · rw [he, List.foldl_append, foldl_early (p := ⟨start, 0⟩) hb, List.foldl_cons,
          visit_late (p := ⟨start, 0⟩) hv, if_neg htwice] at hmoved
        obtain ⟨w, hw, hlate⟩ := (generation_lt_foldl_iff ⟨v.2, 0 + 1⟩).1 hmoved
        have hmem : w ∈ visits ++ [last] :=
          he ▸ List.mem_append_right before (List.mem_cons_of_mem v hw)
        exact .inr (lt_of_lt_of_le hlate (elapsed_mono hu (horder.le_last hmem)))
  · rintro ⟨before, v, after, he, hb, hv, hlate⟩
    rw [he, List.foldl_append, foldl_early (p := ⟨start, 0⟩) hb, List.foldl_cons,
      visit_late (p := ⟨start, 0⟩) hv]
    by_cases htwice : 2 * limit < elapsed unit start v
    · rw [if_pos htwice]
      exact generation_le_foldl ⟨v.2, 2⟩
    · rw [if_neg htwice]
      apply (generation_lt_foldl_iff ⟨v.2, 1⟩).2 ⟨last, ?_, hlate.resolve_left htwice⟩
      apply (last_mem_of_split he).resolve_left
      intro hx
      have hle := horder.readings (List.mem_append_right visits (List.mem_singleton.2 rfl))
      have hpast := hlate.resolve_left htwice
      have hpos := Int.mul_nonneg hl (Int.le_of_lt hu)
      rw [← hx, ← not_le, elapsed_le_iff hu hl] at hpast
      omega

end

end Period

end WebGameServer
