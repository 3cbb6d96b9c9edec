import Mathlib.Data.Finmap
import Mathlib.Data.Finset.Card

namespace WebGameServer
set_option autoImplicit true

/-- Finite maps with values of one type. -/
abbrev Map (K V : Type) := Finmap fun _ : K => V

namespace Map

variable {K V : Type} [DecidableEq K]

theorem lookup_insert_ite (m : Map K V) (k a : K) (v : V) :
    Finmap.lookup a (m.insert k v) = if a = k then some v else m.lookup a := by
  by_cases h : a = k
  · rw [if_pos h, h, Finmap.lookup_insert]
  · rw [if_neg h, Finmap.lookup_insert_of_ne m h]

theorem lookup_erase_ite (m : Map K V) (k a : K) :
    Finmap.lookup a (m.erase k) = if a = k then none else m.lookup a := by
  by_cases h : a = k
  · rw [if_pos h, h, Finmap.lookup_erase]
  · rw [if_neg h, Finmap.lookup_erase_ne h]

/-- Insertion that keeps the value of a key already present. -/
def emplace (m : Map K V) (k : K) (v : V) : Map K V :=
  match m.lookup k with
  | some _ => m
  | none => m.insert k v

theorem emplace_present (m : Map K V) (h : m.lookup k = some u) : m.emplace k v = m := by
  simp only [emplace, h]

theorem emplace_absent (m : Map K V) (h : m.lookup k = none) :
    m.emplace k v = m.insert k v := by
  simp only [emplace, h]

theorem lookup_emplace (m : Map K V) (k a : K) (v : V) :
    Finmap.lookup a (m.emplace k v) =
      if a = k then some ((m.lookup k).getD v) else m.lookup a := by
  cases h : m.lookup k with
  | some u =>
    rw [emplace_present m h]
    by_cases ha : a = k
    · rw [if_pos ha, ha, h, Option.getD_some]
    · rw [if_neg ha]
  | none => rw [emplace_absent m h, lookup_insert_ite, Option.getD_none]

theorem of_lookup_emplace {m : Map K V} (h : (m.emplace k v).lookup a = some u) :
    (a = k ∧ u = v) ∨ m.lookup a = some u := by
  cases hk : m.lookup k with
  | some w =>
    rw [emplace_present m hk] at h
    exact .inr h
  | none =>
    rw [emplace_absent m hk, lookup_insert_ite] at h
    split at h
    · next ha => exact .inl ⟨ha, (Option.some.inj h).symm⟩
    · exact .inr h

theorem mem_keys_iff (m : Map K V) : k ∈ m.keys ↔ ∃ v, m.lookup k = some v := by
  rw [Finmap.mem_keys, Finmap.mem_iff]

theorem keys_insert (m : Map K V) (k : K) (v : V) :
    Finmap.keys (m.insert k v) = insert k m.keys := by
  ext a
  rw [Finset.mem_insert, Finmap.mem_keys, Finmap.mem_keys, Finmap.mem_insert]

theorem keys_insert_present (m : Map K V) (h : k ∈ m.keys) (v : V) :
    Finmap.keys (m.insert k v) = m.keys := by
  rw [keys_insert, Finset.insert_eq_of_mem h]

theorem keys_emplace (m : Map K V) (k : K) (v : V) :
    Finmap.keys (m.emplace k v) = insert k m.keys := by
  cases h : m.lookup k with
  | some u => rw [emplace_present m h, Finset.insert_eq_of_mem ((mem_keys_iff m).2 ⟨u, h⟩)]
  | none => rw [emplace_absent m h, keys_insert]

theorem notMem_keys_iff (m : Map K V) : k ∉ m.keys ↔ m.lookup k = none := by
  rw [Finmap.mem_keys, Finmap.lookup_eq_none]

theorem card_insert_absent (m : Map K V) (h : m.lookup k = none) :
    (Finmap.keys (m.insert k v)).card = m.keys.card + 1 := by
  rw [keys_insert, Finset.card_insert_of_notMem ((notMem_keys_iff m).2 h)]

theorem erase_absent (m : Map K V) (h : m.lookup k = none) : m.erase k = m := by
  apply Finmap.ext_lookup
  intro a
  rw [lookup_erase_ite]
  split
  · next ha => rw [ha, h]
  · rfl

theorem lookup_foldl_erase (m : Map K V) (ks : List K) (a : K) :
    Finmap.lookup a (ks.foldl (fun m k => m.erase k) m) =
      if a ∈ ks then none else m.lookup a := by
  induction ks generalizing m with
  | nil => rw [List.foldl_nil, if_neg List.not_mem_nil]
  | cons k ks ih =>
    rw [List.foldl_cons, ih]
    simp only [lookup_erase_ite, List.mem_cons]
    by_cases h : a = k
    · simp only [h, ↓reduceIte, true_or, ite_self]
    · simp only [h, ↓reduceIte, false_or]

theorem card_erase_present (m : Map K V) (h : m.lookup k = some v) :
    (Finmap.keys (m.erase k)).card + 1 = m.keys.card := by
  rw [Finmap.keys_erase]
  exact Finset.card_erase_add_one ((mem_keys_iff m).2 ⟨v, h⟩)

section Keys

variable {W : Type} {m : Map K V} {n : Map K W}

theorem lookup_of_keys_eq (h : m.keys = n.keys) (hk : m.lookup k = some v) :
    ∃ w, n.lookup k = some w :=
  (mem_keys_iff n).1 (h ▸ (mem_keys_iff m).2 ⟨v, hk⟩)

theorem lookup_none_of_keys_eq (h : m.keys = n.keys) (hk : m.lookup k = none) :
    n.lookup k = none :=
  (notMem_keys_iff n).1 (h ▸ (notMem_keys_iff m).2 hk)

end Keys

/-- Two maps that are inverse to each other. -/
def Inverse {V : Type} [DecidableEq V] (m : Map K V) (n : Map V K) : Prop :=
  ∀ k v, m.lookup k = some v ↔ n.lookup v = some k

section Inverse

variable {V : Type} [DecidableEq V] {m : Map K V} {n : Map V K}

theorem Inverse.symm (h : Inverse m n) : Inverse n m := fun v k => (h k v).symm

theorem Inverse.injective (h : Inverse m n) (hk : m.lookup k = some v)
    (hk' : m.lookup k' = some v) : k = k' := by
  have h1 := (h k v).1 hk
  have h2 := (h k' v).1 hk'
  rw [h1] at h2
  exact Option.some.inj h2

theorem Inverse.erase (h : Inverse m n) (hk : m.lookup k = some v) :
    Inverse (m.erase k) (n.erase v) := by
  intro a b
  rw [lookup_erase_ite, lookup_erase_ite]
  by_cases ha : a = k
  · subst ha
    rw [if_pos rfl]
    by_cases hb : b = v
    · rw [if_pos hb]
      exact ⟨nofun, nofun⟩
    · rw [if_neg hb]
      refine ⟨nofun, fun hn => (hb ?_).elim⟩
      rw [(h a b).2 hn] at hk
      exact Option.some.inj hk
  · rw [if_neg ha]
    by_cases hb : b = v
    · subst hb
      rw [if_pos rfl]
      exact ⟨fun hm => (ha (h.injective hm hk)).elim, nofun⟩
    · rw [if_neg hb]
      exact h a b

theorem Inverse.insert (h : Inverse m n) (hk : m.lookup k = none) (hv : n.lookup v = none) :
    Inverse (m.insert k v) (n.insert v k) := by
  intro a b
  rw [lookup_insert_ite, lookup_insert_ite]
  by_cases ha : a = k
  · subst ha
    rw [if_pos rfl]
    by_cases hb : b = v
    · rw [if_pos hb, hb]
      exact ⟨fun _ => rfl, fun _ => rfl⟩
    · rw [if_neg hb, Option.some.injEq, ← h a b, hk]
      exact ⟨fun he => (hb he.symm).elim, nofun⟩
  · rw [if_neg ha]
    by_cases hb : b = v
    · subst hb
      rw [if_pos rfl, Option.some.injEq, h a b, hv]
      exact ⟨nofun, fun he => (ha he.symm).elim⟩
    · rw [if_neg hb]
      exact h a b

theorem Inverse.card_eq (h : Inverse m n) : m.keys.card = n.keys.card := by
  have hsome (k : K) (hk : k ∈ m.keys) : (m.lookup k).isSome = true :=
    Finmap.lookup_isSome.2 (Finmap.mem_keys.1 hk)
  apply Finset.card_bij (fun k hk => (m.lookup k).get (hsome k hk)) ?_ ?_ ?_
  · intro k hk
    exact (mem_keys_iff n).2 ⟨k, (h k _).1 (Option.some_get _).symm⟩
  · intro k hk k' hk' he
    apply h.injective (Option.some_get (hsome k hk)).symm
    rw [he]
    exact (Option.some_get (hsome k' hk')).symm
  · intro v hv
    obtain ⟨k, hk⟩ := (mem_keys_iff n).1 hv
    have hm := (h k v).2 hk
    refine ⟨k, (mem_keys_iff m).2 ⟨v, hm⟩, ?_⟩
    simp only [hm, Option.get_some]

end Inverse

end Map

end WebGameServer
