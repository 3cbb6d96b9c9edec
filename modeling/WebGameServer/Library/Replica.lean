import WebGameServer.Library.Transition

namespace WebGameServer
set_option autoImplicit true

/-- A client shows the last view that an authority has reported to it and acts on this view,
when it is its turn, before the authority has answered. -/
structure Replica (View Command : Type) where
  turn : View → Prop
  final : View → Prop
  legal : View → Command → Prop
  -- What the client shows after its own command.
  act : View → Command → View
  turn_final : turn v → ¬ final v
  act_turn : turn v → ¬ turn (act v c)

/-- The views on the way to the client and the commands on the way to the authority arrive in
order. -/
structure ReplicaState (View Command : Type) where
  authority : View
  down : List View
  shown : Option View
  up : List Command

namespace Replica

variable {View Command : Type}

/-- The client has been sent its first view. -/
def Started (s : ReplicaState View Command) : Prop :=
  s.down = [s.authority] ∧ s.shown = none ∧ s.up = []

/-- Without a command of the client the authority changes its view when it is not the turn of
the client, or to end. A command that it may not obey has no answer. -/
inductive Step (R : Replica View Command) :
    ReplicaState View Command → Unit → ReplicaState View Command → Prop where
  | report (a : View) : ¬ R.final s.authority → ¬ R.turn s.authority ∨ R.final a →
      Step R s () { s with authority := a, down := s.down ++ [a] }
  | accept (a : View) : s.up = c :: cs → R.turn s.authority → R.legal s.authority c →
      ¬ R.turn a → Step R s () { s with authority := a, down := s.down ++ [a], up := cs }
  | ignore : s.up = c :: cs → ¬ (R.turn s.authority ∧ R.legal s.authority c) →
      Step R s () { s with up := cs }
  | receive : s.down = v :: vs → Step R s () { s with down := vs, shown := some v }
  | act (c : Command) : s.shown = some v → R.turn v → R.legal v c →
      Step R s () { s with shown := some (R.act v c), up := s.up ++ [c] }

def system (R : Replica View Command) : LTS (ReplicaState View Command) Unit where
  init := Started
  step := R.Step

/-- If it was the turn of the client when the view was sent, nothing but the end came after. -/
def Settled (R : Replica View Command) (a v : View) (later : List View) : Prop :=
  R.turn v → later = [] ∨ later = [a] ∧ R.final a

/-- No command is on the way. -/
structure Quiet (R : Replica View Command) (s : ReplicaState View Command) : Prop where
  up : s.up = []
  last : s.down.getLast?.or s.shown = some s.authority
  shown : ∀ v, s.shown = some v → R.Settled s.authority v s.down
  down : ∀ before v later, s.down = before ++ v :: later → R.Settled s.authority v later

/-- The command on the way is one that the authority will obey. -/
structure Pending (R : Replica View Command) (s : ReplicaState View Command) : Prop where
  up : ∃ c, s.up = [c] ∧ R.legal s.authority c
  turn : R.turn s.authority
  down : s.down = []
  shown : ∀ v, s.shown = some v → ¬ R.turn v

/-- The command on the way comes after the end. -/
structure Late (R : Replica View Command) (s : ReplicaState View Command) : Prop where
  up : ∃ c, s.up = [c]
  final : R.final s.authority
  last : s.down = [s.authority] ∨ s.down = [] ∧ s.shown = some s.authority
  shown : ∀ v, s.shown = some v → ¬ R.turn v

/-- At most one command is on the way. -/
inductive Synced (R : Replica View Command) (s : ReplicaState View Command) : Prop where
  | quiet : R.Quiet s → Synced R s
  | pending : R.Pending s → Synced R s
  | late : R.Late s → Synced R s

variable {R : Replica View Command} {s s' : ReplicaState View Command}

theorem settled_of_not_turn (h : ¬ R.turn v) : R.Settled a v later := fun ht => (h ht).elim

theorem Quiet.report (h : R.Quiet s) (hf : ¬ R.final s.authority)
    (ht : ¬ R.turn s.authority ∨ R.final a) :
    R.Quiet { s with authority := a, down := s.down ++ [a] } := by
  -- A view that lets the client act is the last one.
  have old {v : View} {later : List View} (hs : R.Settled s.authority v later)
      (hl : later = [] → v = s.authority) : R.Settled a v (later ++ [a]) := by
    intro hv
    rcases hs hv with rfl | ⟨-, hfinal⟩
    · rcases ht with ht | ht
      · exact (ht (hl rfl ▸ hv)).elim
      · exact .inr ⟨rfl, ht⟩
    · exact (hf hfinal).elim
  constructor
  · exact h.up
  · rw [List.getLast?_concat, Option.some_or]
  · intro v hv
    apply old (h.shown v hv)
    intro hd
    have hlast := h.last
    rw [hd, hv] at hlast
    exact Option.some.inj hlast
  · intro before v later he
    rcases List.eq_nil_or_concat later with rfl | ⟨init, x, rfl⟩
    · exact fun _ => .inl rfl
    · have hsplit : s.down ++ [a] = (before ++ v :: init) ++ [x] := by
        have he : s.down ++ [a] = before ++ v :: init.concat x := he
        rw [he, List.append_assoc, List.cons_append, List.concat_eq_append]
      obtain ⟨hd, hx⟩ := List.append_inj' hsplit rfl
      cases hx
      rw [List.concat_eq_append]
      apply old (h.down before v init hd)
      rintro rfl
      have hlast := h.last
      rw [hd, List.getLast?_concat, Option.some_or] at hlast
      exact Option.some.inj hlast

theorem Quiet.receive (h : R.Quiet s) (hd : s.down = v :: vs) :
    R.Quiet { s with down := vs, shown := some v } := by
  constructor
  · exact h.up
  · have hlast := h.last
    rw [hd, List.getLast?_cons, Option.some_or] at hlast
    cases hl : vs.getLast? with
    | none =>
      rw [hl] at hlast
      exact hlast
    | some w =>
      rw [hl] at hlast
      exact hlast
  · intro w hw
    cases hw
    exact h.down [] v vs hd
  · intro before w later he
    have hold : s.down = (v :: before) ++ w :: later := by
      rw [hd, List.cons_append]
      exact congrArg (v :: ·) he
    exact h.down (v :: before) w later hold

theorem Quiet.act (h : R.Quiet s) (hv : s.shown = some v) (ht : R.turn v) (hl : R.legal v c) :
    R.Synced { s with shown := some (R.act v c), up := s.up ++ [c] } := by
  have hup : s.up ++ [c] = [c] := by rw [h.up, List.nil_append]
  have hshown : ∀ w, some (R.act v c) = some w → ¬ R.turn w := by
    intro w hw
    cases hw
    exact R.act_turn ht
  rcases h.shown v hv ht with hd | ⟨hd, hf⟩
  · have hlast := h.last
    rw [hd, hv] at hlast
    cases Option.some.inj hlast
    exact .pending ⟨⟨c, hup, hl⟩, ht, hd, hshown⟩
  · exact .late ⟨⟨c, hup⟩, hf, .inl hd, hshown⟩

theorem Pending.accept (h : R.Pending s) (hu : s.up = c :: cs) (ht : ¬ R.turn a) :
    R.Quiet { s with authority := a, down := s.down ++ [a], up := cs } := by
  obtain ⟨c', hc, -⟩ := h.up
  rw [hc] at hu
  cases hu
  constructor
  · rfl
  · rw [List.getLast?_concat, Option.some_or]
  · exact fun v hv => settled_of_not_turn (h.shown v hv)
  · intro before v later he
    have he : [a] = before ++ v :: later := by
      rw [← he, h.down, List.nil_append]
    apply settled_of_not_turn
    have hm : v ∈ before ++ v :: later := List.mem_append_right _ List.mem_cons_self
    rw [← he] at hm
    exact List.mem_singleton.1 hm ▸ ht

theorem Late.receive (h : R.Late s) (hd : s.down = v :: vs) :
    R.Late { s with down := vs, shown := some v } := by
  rcases h.last with hl | ⟨hl, -⟩
  · rw [hl] at hd
    cases hd
    refine ⟨h.up, h.final, .inr ⟨rfl, rfl⟩, ?_⟩
    intro w hw
    cases hw
    exact fun ht => R.turn_final ht h.final
  · rw [hl] at hd
    cases hd

theorem Late.ignore (h : R.Late s) (hu : s.up = c :: cs) : R.Quiet { s with up := cs } := by
  obtain ⟨c', hc⟩ := h.up
  rw [hc] at hu
  cases hu
  have hfinal : ¬ R.turn s.authority := fun ht => R.turn_final ht h.final
  constructor
  · rfl
  · rcases h.last with hl | ⟨hl, hs⟩
    · rw [hl]
      rfl
    · rw [hl, hs]
      rfl
  · exact fun v hv => settled_of_not_turn (h.shown v hv)
  · intro before v later he
    apply settled_of_not_turn
    rcases h.last with hl | ⟨hl, -⟩
    · have hm : v ∈ before ++ v :: later := List.mem_append_right _ List.mem_cons_self
      rw [← he, hl] at hm
      exact List.mem_singleton.1 hm ▸ hfinal
    · rw [hl] at he
      exact (List.append_ne_nil_of_right_ne_nil _ (List.cons_ne_nil _ _) he.symm).elim

theorem Synced.step (h : R.Synced s) (hs : R.Step s l s') : R.Synced s' := by
  cases h with
  | quiet h =>
    cases hs with
    | report a hf ht => exact .quiet (h.report hf ht)
    | accept a hu | ignore hu =>
      rw [h.up] at hu
      cases hu
    | receive hd => exact .quiet (h.receive hd)
    | act c hv ht hl => exact h.act hv ht hl
  | pending h =>
    cases hs with
    | report a hf ht =>
      obtain ⟨c, hc, -⟩ := h.up
      have hfinal := ht.resolve_left fun hn => hn h.turn
      refine .late ⟨⟨c, hc⟩, hfinal, .inl ?_, h.shown⟩
      rw [h.down, List.nil_append]
    | accept a hu _ _ ht => exact .quiet (h.accept hu ht)
    | ignore hu hn =>
      obtain ⟨c, hc, hl⟩ := h.up
      rw [hc] at hu
      cases hu
      exact (hn ⟨h.turn, hl⟩).elim
    | receive hd =>
      rw [h.down] at hd
      cases hd
    | act c hv ht => exact (h.shown _ hv ht).elim
  | late h =>
    cases hs with
    | report a hf => exact (hf h.final).elim
    | accept a hu ht => exact (R.turn_final ht h.final).elim
    | ignore hu => exact .quiet (h.ignore hu)
    | receive hd => exact .late (h.receive hd)
    | act c hv ht => exact (h.shown _ hv ht).elim

theorem synced_invariant (R : Replica View Command) : R.system.Invariant R.Synced where
  init := by
    rintro s ⟨hd, hs, hu⟩
    refine .quiet ⟨hu, ?_, ?_, ?_⟩
    · rw [hd]
      rfl
    · intro v hv
      rw [hs] at hv
      cases hv
    · intro before v later he
      rw [hd] at he
      cases before with
      | nil =>
        cases he
        exact fun _ => .inl rfl
      | cons w before =>
        injection he with _ he
        exact (List.append_ne_nil_of_right_ne_nil _ (List.cons_ne_nil _ _) he.symm).elim
  step _ h hs := h.step hs

theorem Synced.final_of_ignore (h : R.Synced s) (hu : s.up = c :: cs)
    (hn : ¬ (R.turn s.authority ∧ R.legal s.authority c)) : R.final s.authority := by
  cases h with
  | quiet h =>
    rw [h.up] at hu
    cases hu
  | pending h =>
    obtain ⟨c', hc, hl⟩ := h.up
    rw [hc] at hu
    cases hu
    exact (hn ⟨h.turn, hl⟩).elim
  | late h => exact h.final

theorem Synced.shown_of_drained (h : R.Synced s) (hu : s.up = []) (hd : s.down = []) :
    s.shown = some s.authority := by
  cases h with
  | quiet h =>
    have hlast := h.last
    rw [hd] at hlast
    exact hlast
  | pending h =>
    obtain ⟨c, hc, -⟩ := h.up
    rw [hu] at hc
    cases hc
  | late h =>
    obtain ⟨c, hc⟩ := h.up
    rw [hu] at hc
    cases hc

end Replica

end WebGameServer
