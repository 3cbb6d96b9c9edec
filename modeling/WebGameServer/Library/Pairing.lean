import Mathlib.Data.Set.Insert
import Mathlib.Data.List.Nodup
import Mathlib.Order.Defs.LinearOrder

namespace WebGameServer
set_option autoImplicit true

variable {α κ δ : Type} [LinearOrder δ] {key : α → κ} {dist : α → α → δ} {limit : δ}

/-- The greedy pairing of a list whose items have keys. The first item that is not taken is
paired with a closest one of those behind it that are not taken, if that one is near enough. -/
inductive Pairing (key : α → κ) (dist : α → α → δ) (limit : δ) :
    Set κ → List α → List (α × α) → Prop where
  | nil {taken : Set κ} : Pairing key dist limit taken [] []
  | taken {taken : Set κ} {a : α} {l : List α} {ps : List (α × α)} : key a ∈ taken →
      Pairing key dist limit taken l ps → Pairing key dist limit taken (a :: l) ps
  | pair {taken : Set κ} {a b : α} {l : List α} {ps : List (α × α)} : key a ∉ taken → b ∈ l →
      key b ∉ taken → (∀ c ∈ l, key c ∉ taken → dist a b ≤ dist a c) → dist a b ≤ limit →
      Pairing key dist limit (insert (key b) (insert (key a) taken)) l ps →
      Pairing key dist limit taken (a :: l) ((a, b) :: ps)
  | alone {taken : Set κ} {a : α} {l : List α} {ps : List (α × α)} : key a ∉ taken →
      (∀ c ∈ l, key c ∉ taken → limit < dist a c) → Pairing key dist limit taken l ps →
      Pairing key dist limit taken (a :: l) ps

/-- The keys of the items of a list of pairs. -/
def pairKeys (key : α → κ) (ps : List (α × α)) : List κ :=
  ps.flatMap fun p => [key p.1, key p.2]

theorem mem_pairKeys {k : κ} {ps : List (α × α)} :
    k ∈ pairKeys key ps ↔ ∃ p ∈ ps, k = key p.1 ∨ k = key p.2 := by
  simp only [pairKeys, List.mem_flatMap, List.mem_cons, List.not_mem_nil, or_false]

namespace Pairing

variable {taken : Set κ} {l : List α} {ps : List (α × α)}

theorem mem (h : Pairing key dist limit taken l ps) (hp : p ∈ ps) :
    p.1 ∈ l ∧ p.2 ∈ l ∧ key p.1 ∉ taken ∧ key p.2 ∉ taken ∧ dist p.1 p.2 ≤ limit := by
  induction h with
  | nil => cases hp
  | taken ha h ih =>
    obtain ⟨h₁, h₂, h₃⟩ := ih hp
    exact ⟨List.mem_cons_of_mem _ h₁, List.mem_cons_of_mem _ h₂, h₃⟩
  | pair ha hb hbt hmin hle h ih =>
    rcases List.mem_cons.1 hp with rfl | hp
    · exact ⟨List.mem_cons_self, List.mem_cons_of_mem _ hb, ha, hbt, hle⟩
    · obtain ⟨h₁, h₂, h₃, h₄, h₅⟩ := ih hp
      refine ⟨List.mem_cons_of_mem _ h₁, List.mem_cons_of_mem _ h₂, fun ht => ?_, fun ht => ?_, h₅⟩
      · exact h₃ (Set.mem_insert_of_mem _ (Set.mem_insert_of_mem _ ht))
      · exact h₄ (Set.mem_insert_of_mem _ (Set.mem_insert_of_mem _ ht))
  | alone ha hfar h ih =>
    obtain ⟨h₁, h₂, h₃⟩ := ih hp
    exact ⟨List.mem_cons_of_mem _ h₁, List.mem_cons_of_mem _ h₂, h₃⟩

theorem not_mem_pairKeys (h : Pairing key dist limit taken l ps) (hk : k ∈ taken) :
    k ∉ pairKeys key ps := by
  intro hm
  obtain ⟨p, hp, rfl | rfl⟩ := mem_pairKeys.1 hm
  · exact (h.mem hp).2.2.1 hk
  · exact (h.mem hp).2.2.2.1 hk

theorem nodup (h : Pairing key dist limit taken l ps) (hn : (l.map key).Nodup) :
    (pairKeys key ps).Nodup := by
  induction h with
  | nil => exact .nil
  | taken ha h ih => exact ih hn.of_cons
  | @pair taken a b l ps ha hb hbt hmin hle h ih =>
    have hab : key a ≠ key b := by
      intro he
      exact (List.nodup_cons.1 hn).1 (he ▸ List.mem_map_of_mem hb)
    have ha' := h.not_mem_pairKeys (Set.mem_insert_of_mem (key b) (Set.mem_insert (key a) taken))
    have hb' := h.not_mem_pairKeys (Set.mem_insert (key b) (insert (key a) taken))
    have hrest := ih hn.of_cons
    simp only [pairKeys, List.flatMap_cons, List.cons_append, List.nil_append, List.nodup_cons,
      List.mem_cons, not_or]
    exact ⟨⟨hab, ha'⟩, hb', hrest⟩
  | alone ha hfar h ih => exact ih hn.of_cons

theorem maximal (h : Pairing key dist limit taken l ps) (hsymm : ∀ a b, dist a b = dist b a)
    (ha : a ∈ l) (hb : b ∈ l) (hab : key a ≠ key b) (hat : key a ∉ taken) (hbt : key b ∉ taken)
    (hap : key a ∉ pairKeys key ps) (hbp : key b ∉ pairKeys key ps) : limit < dist a b := by
  induction h with
  | nil => cases ha
  | taken hc h ih =>
    rcases List.mem_cons.1 ha with rfl | ha
    · exact (hat hc).elim
    rcases List.mem_cons.1 hb with rfl | hb
    · exact (hbt hc).elim
    · exact ih ha hb hat hbt hap hbp
  | @pair taken c d l ps hc hd hdt hmin hle h ih =>
    have hsplit (k : κ) (hk : k ∉ pairKeys key ((c, d) :: ps)) :
        k ≠ key c ∧ k ≠ key d ∧ k ∉ pairKeys key ps := by
      simpa only [pairKeys, List.flatMap_cons, List.cons_append, List.nil_append, List.mem_cons,
        not_or] using hk
    obtain ⟨hac, had, hap⟩ := hsplit _ hap
    obtain ⟨hbc, hbd, hbp⟩ := hsplit _ hbp
    have htaken (k : κ) (hk : k ∉ taken) (hkc : k ≠ key c) (hkd : k ≠ key d) :
        k ∉ insert (key d) (insert (key c) taken) := by
      simp only [Set.mem_insert_iff, not_or]
      exact ⟨hkd, hkc, hk⟩
    have ha' : a ∈ l := (List.mem_cons.1 ha).resolve_left fun he => hac (congrArg key he)
    have hb' : b ∈ l := (List.mem_cons.1 hb).resolve_left fun he => hbc (congrArg key he)
    exact ih ha' hb' (htaken _ hat hac had) (htaken _ hbt hbc hbd) hap hbp
  | alone hc hfar h ih =>
    rcases List.mem_cons.1 ha with rfl | ha'
    · rcases List.mem_cons.1 hb with rfl | hb'
      · exact (hab rfl).elim
      · exact hfar b hb' hbt
    · rcases List.mem_cons.1 hb with rfl | hb'
      · rw [hsymm]
        exact hfar a ha' hat
      · exact ih ha' hb' hat hbt hap hbp

/-- The second item of a pair is behind the first one, and a closest one of those that were left
when the pair was made. -/
theorem closest (h : Pairing key dist limit taken l (before ++ p :: after)) :
    ∃ pre post, l = pre ++ p.1 :: post ∧ p.2 ∈ post ∧
      ∀ c ∈ post, key c ∉ taken → key c ∉ pairKeys key before → dist p.1 p.2 ≤ dist p.1 c := by
  generalize hps : before ++ p :: after = ps at h
  induction h generalizing before with
  | nil => cases before <;> cases hps
  | @taken taken a l ps ha h ih =>
    obtain ⟨pre, post, rfl, hpost⟩ := ih hps
    exact ⟨a :: pre, post, rfl, hpost⟩
  | @pair taken a b l ps ha hb hbt hmin hle h ih =>
    cases before with
    | nil =>
      cases hps
      exact ⟨[], l, rfl, hb, fun c hc ht _ => hmin c hc ht⟩
    | cons q before =>
      cases hps
      obtain ⟨pre, post, rfl, hpost, hclose⟩ := ih rfl
      refine ⟨a :: pre, post, rfl, hpost, fun c hc ht hk => ?_⟩
      obtain ⟨hca, hcb, hcp⟩ : key c ≠ key a ∧ key c ≠ key b ∧ key c ∉ pairKeys key before := by
        simpa only [pairKeys, List.flatMap_cons, List.cons_append, List.nil_append,
          List.mem_cons, not_or] using hk
      apply hclose c hc ?_ hcp
      simp only [Set.mem_insert_iff, not_or]
      exact ⟨hcb, hca, ht⟩
  | @alone taken a l ps ha hfar h ih =>
    obtain ⟨pre, post, rfl, hpost⟩ := ih hps
    exact ⟨a :: pre, post, rfl, hpost⟩

end Pairing

end WebGameServer
