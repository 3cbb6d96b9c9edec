import WebGameServer.Library.Transition

namespace WebGameServer
set_option autoImplicit true

/-- A queue of two lists: producers append to the first while a consumer works on the second.
During the work `todo` is what is left of the second list. -/
structure DoubleBuffer (α : Type) where
  first : List α
  second : List α
  working : Bool
  todo : List α

/-- What a step appends to a queue and what it takes out. -/
structure Flow (α : Type) where
  pushed : List α
  taken : List α

namespace DoubleBuffer

variable {α : Type}

def empty : DoubleBuffer α := ⟨[], [], false, []⟩

/-- The consumer swaps the lists, takes the entries from the front and clears the second list,
whatever is left of it. -/
inductive Step : DoubleBuffer α → Flow α → DoubleBuffer α → Prop where
  | push (xs : List α) : Step b ⟨xs, []⟩ { b with first := b.first ++ xs }
  | swap : b.working = false →
      Step b ⟨[], []⟩ { first := b.second, second := b.first, working := true, todo := b.first }
  | take : b.working = true → b.todo = xs ++ rest → Step b ⟨[], xs⟩ { b with todo := rest }
  | clear : b.working = true →
      Step b ⟨[], b.todo⟩ { b with second := [], working := false, todo := [] }

/-- Between the clear and the swap there is nothing in the second list. -/
def Cleared (b : DoubleBuffer α) : Prop := b.working = false → b.second = [] ∧ b.todo = []

variable {b b' : DoubleBuffer α} {l : Flow α}

theorem Step.of_eq (h : b' = b) : Step b ⟨[], []⟩ b' := by
  have hpush : Step b ⟨[], []⟩ { b with first := b.first ++ [] } := .push []
  rw [List.append_nil] at hpush
  exact h ▸ hpush

theorem Step.cleared (h : Step b l b') (hb : b.Cleared) : b'.Cleared := by
  cases h with
  | push xs => exact hb
  | swap hw => exact nofun
  | take hw he =>
    intro hw'
    have hcontra : b.working = false := hw'
    rw [hw] at hcontra
    cases hcontra
  | clear hw => exact fun _ => ⟨rfl, rfl⟩

theorem Step.balance (h : Step b l b') (hb : b.Cleared) :
    b.todo ++ b.first ++ l.pushed = l.taken ++ (b'.todo ++ b'.first) := by
  cases h with
  | push xs => exact List.append_assoc _ _ _
  | swap hw =>
    obtain ⟨hsecond, htodo⟩ := hb hw
    simp only [hsecond, htodo, List.nil_append, List.append_nil]
  | take hw he => simp only [he, List.append_nil, List.append_assoc]
  | clear hw => simp only [List.append_nil, List.nil_append]

end DoubleBuffer

section Queue

variable {State Label α : Type} {M : LTS State Label} {view : State → DoubleBuffer α}
  {flow : Label → Flow α}

/-- What the steps with the labels append to the queue, in order. -/
def pushes (flow : Label → Flow α) (ls : List Label) : List α :=
  ls.flatMap fun l => (flow l).pushed

/-- What the steps with the labels take out of the queue, in order. -/
def takes (flow : Label → Flow α) (ls : List Label) : List α :=
  ls.flatMap fun l => (flow l).taken

/-- The steps of the system handle a part of its state as a double buffer. -/
structure Buffers (M : LTS State Label) (view : State → DoubleBuffer α)
    (flow : Label → Flow α) : Prop where
  init : ∀ {s}, M.init s → view s = .empty
  step : ∀ {s l s'}, M.Reachable s → M.step s l s' →
    DoubleBuffer.Step (view s) (flow l) (view s')

theorem Buffers.cleared (h : Buffers M view flow) (hr : M.Reachable s) : (view s).Cleared := by
  induction hr with
  | init h0 =>
    rw [h.init h0]
    exact fun _ => ⟨rfl, rfl⟩
  | step hr hs ih => exact (h.step hr hs).cleared ih

/-- Over a run: what was in the queue and what is pushed is what is taken and what is left. -/
theorem Buffers.balance (h : Buffers M view flow) (hs : M.Reachable s) (hrun : M.Run s ls s') :
    (view s).todo ++ (view s).first ++ pushes flow ls =
      takes flow ls ++ ((view s').todo ++ (view s').first) := by
  induction hrun with
  | nil => exact List.append_nil _
  | @cons s l s₁ ls s₂ hstep hrun ih =>
    have hone := (h.step hs hstep).balance (h.cleared hs)
    have hrest := ih (hs.step hstep)
    calc (view s).todo ++ (view s).first ++ pushes flow (l :: ls)
        = (view s).todo ++ (view s).first ++ (flow l).pushed ++ pushes flow ls := by
          rw [pushes, List.flatMap_cons, ← List.append_assoc, pushes]
      _ = (flow l).taken ++ ((view s₁).todo ++ (view s₁).first ++ pushes flow ls) := by
          rw [hone, List.append_assoc]
      _ = takes flow (l :: ls) ++ ((view s₂).todo ++ (view s₂).first) := by
          rw [hrest, takes, takes, List.flatMap_cons, List.append_assoc]

end Queue

end WebGameServer
