import Mathlib.Algebra.FreeMonoid.Basic
import Mathlib.Algebra.Order.Group.Multiset
import Mathlib.Data.Fintype.Basic
import WebGameServer.BaseServer.Bindings
import WebGameServer.Library.Conservation

namespace WebGameServer
set_option autoImplicit true

/-- A text for a connection, with the client that it was made for. -/
structure Frame (T : Traits) where
  hdl : T.Hdl
  msg : String
  owner : Option (CombinedId T)

/-- What an observer notes of the texts for connections. -/
inductive FrameNote (T : Traits) where
  -- `send_message` or `complete_session` has found the connection of a client.
  | promised (o : Frame T)
  -- A worker has sent the text of an action.
  | delivered (o : Frame T)

section Local

variable {T : Traits} {Thread : Type} {cfg : Config T} {me : Thread} {s s' : Server T Thread}
  {evs : List (Event T)}

def FrameNote.promise : FrameNote T → Option (Frame T)
  | .promised o => some o
  | _ => none

def FrameNote.delivery : FrameNote T → Option (Frame T)
  | .delivered o => some o
  | _ => none

def Event.frame : Event T → Option (Frame T)
  | .sent hdl msg owner => some ⟨hdl, msg, owner⟩
  | _ => none

def Action.frame (a : Action T) : Option (Frame T) :=
  if a.type = .outMessage ∨ a.type = .closeConnection then some ⟨a.hdl, a.msg, a.owner⟩ else none

def Server.frames (s : Server T Thread) : List (Frame T) := s.actions.filterMap Action.frame

/-- The text that the worker has popped and not sent yet. -/
def WorkerPc.frames : WorkerPc T → List (Frame T)
  | .handling a => a.frame.toList
  | _ => []

/-- The texts that a worker sends for an action that it has popped, and not at a login. -/
def WorkerPc.delivered (pc : WorkerPc T) (evs : List (Event T)) : List (Frame T) :=
  match pc with
  | .handling _ => evs.filterMap Event.frame
  | _ => []

/-- The text that the caller has not pushed yet. -/
def CallerPc.frames (cfg : Config T) : CallerPc T → List (Frame T)
  | .sending cid hdl msg => [⟨hdl, msg, some cid⟩]
  | .closing sid r _ pid hdl =>
    [⟨hdl, cfg.getResultStr ⟨pid, r.session⟩ r.data, some ⟨pid, sid⟩⟩]
  | _ => []

theorem frames_push {a : Action T} (s : Server T Thread) (h : a.frame = none) :
    (s.push a).frames = s.frames := by
  simp only [Server.frames, Server.push, List.filterMap_append, List.filterMap_cons, h,
    List.filterMap_nil, List.append_nil]

theorem frames_push_some {a : Action T} {o : Frame T} (s : Server T Thread)
    (h : a.frame = some o) : (s.push a).frames = s.frames ++ [o] := by
  simp only [Server.frames, Server.push, List.filterMap_append, List.filterMap_cons, h,
    List.filterMap_nil]

theorem frame_none {a : Action T} (h : a.type ≠ .outMessage) (h' : a.type ≠ .closeConnection) :
    a.frame = none := if_neg fun ho => ho.elim h h'

theorem frames_of_actions (h : s'.actions = s.actions) : s'.frames = s.frames := by
  rw [Server.frames, h, Server.frames]

theorem frames_pop (h : s.actions = a :: rest) :
    a.frame.toList ++ rest.filterMap Action.frame = s.frames := by
  rw [Server.frames, h, List.filterMap_cons]
  cases a.frame with
  | none => rfl
  | some o => rfl

theorem TransportStep.frames (h : TransportStep s evs s') : s'.frames = s.frames := by
  cases h with
  | onOpen hdl hr | onMessage hdl msg | onClose hdl =>
    exact frames_push s (frame_none ActionType.noConfusion ActionType.noConfusion)
  | onOpenStopped hdl hr => rfl

theorem ControlStep.frames (h : ControlStep s pc evs s' pc') (hn : .stopping ∉ evs) :
    s'.frames = s.frames := by
  cases h with
  | run hr => rfl
  | stop | clearAll | notifyAll => exact (hn List.mem_cons_self).elim

theorem WorkerStep.frames (h : WorkerStep cfg me s pc evs s' pc') :
    pc.frames ++ s.frames = pc.delivered evs ++ (pc'.frames ++ s'.frames) := by
  have drop {a : Action T} {s' : Server T Thread} (h : a.type ≠ .outMessage)
      (h' : a.type ≠ .closeConnection) (hs : s'.actions = s.actions) :
      (WorkerPc.handling a).frames ++ s.frames = s'.frames := by
    rw [WorkerPc.frames, frame_none h h', frames_of_actions hs]
    rfl
  cases h with
  | pop ha | wakePop _ ha => exact (frames_pop ha).symm
  | subscribe ht | unsubscribeUnbound ht | unsubscribeBound ht | messageUnbound ht
  | messageBound ht =>
    exact drop (by rw [ht]; decide) (by rw [ht]; decide) rfl
  | outMessage ht =>
    rw [WorkerPc.frames, Action.frame, if_pos (.inl ht)]
    rfl
  | closeConnection ht =>
    rw [WorkerPc.frames, Action.frame, if_pos (.inr ht)]
    rfl
  | disconnectSession => exact (frames_of_actions s.disconnectSession_actions).symm
  | lockedSession | openSession => exact (frames_of_actions s.updateSessionLocks_actions).symm
  | setupConnectionId => exact (frames_of_actions s.setupConnectionId_actions).symm
  | _ => rfl

theorem CallerStep.frames (h : CallerStep cfg me s pc evs s' pc') :
    s'.frames ++ pc'.frames cfg = s.frames ++ (pc.frames cfg ++ pc'.frames cfg) := by
  cases h with
  | closePlayer | pushMessage =>
    simp only [CallerPc.frames, List.append_nil]
    exact frames_push_some s rfl
  | completeLocked | completeSession =>
    exact congrArg (· ++ []) (frames_of_actions s.updateSessionLocks_actions)
  | _ => rfl

end Local

section Run

variable {T : Traits} {Worker Caller : Type} [DecidableEq Worker] [DecidableEq Caller]
  {cfg : Config T} {σ σ' : System T Worker Caller} {tr : List (FrameNote T)}

/-- What the observer notes of a step. -/
inductive NotesFrames (cfg : Config T) (σ : System T Worker Caller) (evs : List (Event T)) :
    System T Worker Caller → List (FrameNote T) → Prop where
  | transport (h : TransportStep σ.server evs s) :
      NotesFrames cfg σ evs { σ with server := s, log := σ.log ++ evs } []
  | worker (w : Worker) (h : WorkerStep cfg (.inl w) σ.server (σ.worker w) evs s pc) :
      NotesFrames cfg σ evs
        { σ with server := s, worker := Function.update σ.worker w pc, log := σ.log ++ evs }
        (((σ.worker w).delivered evs).map .delivered)
  | caller (c : Caller) (h : CallerStep cfg (.inr c) σ.server (σ.caller c) evs s pc) :
      NotesFrames cfg σ evs
        { σ with server := s, caller := Function.update σ.caller c pc, log := σ.log ++ evs }
        ((pc.frames cfg).map .promised)
  | control (h : ControlStep σ.server σ.control evs s pc) :
      NotesFrames cfg σ evs { σ with server := s, control := pc, log := σ.log ++ evs } []

theorem Step.notesFrames (h : Step cfg σ evs σ') : ∃ ns, NotesFrames cfg σ evs σ' ns := by
  cases h with
  | transport h => exact ⟨_, .transport h⟩
  | worker w h => exact ⟨_, .worker w h⟩
  | caller c h => exact ⟨_, .caller c h⟩
  | control h => exact ⟨_, .control h⟩

def promised (tr : List (FrameNote T)) : List (Frame T) := tr.filterMap FrameNote.promise

def delivered (tr : List (FrameNote T)) : List (Frame T) := tr.filterMap FrameNote.delivery

theorem promised_delivered (l : List (Frame T)) :
    promised (l.map .delivered) = [] ∧ delivered (l.map .delivered) = l := by
  constructor
  · rw [promised, List.filterMap_map, List.filterMap_eq_nil_iff]
    exact fun _ _ => rfl
  · rw [delivered, List.filterMap_map]
    exact List.filterMap_some

theorem promised_promised (l : List (Frame T)) :
    promised (l.map .promised) = l ∧ delivered (l.map .promised) = [] := by
  constructor
  · rw [promised, List.filterMap_map]
    exact List.filterMap_some
  · rw [delivered, List.filterMap_map, List.filterMap_eq_nil_iff]
    exact fun _ _ => rfl

theorem promised_append (tr ns : List (FrameNote T)) :
    promised (tr ++ ns) = promised tr ++ promised ns := List.filterMap_append

theorem delivered_append (tr ns : List (FrameNote T)) :
    delivered (tr ++ ns) = delivered tr ++ delivered ns := List.filterMap_append

/-- The texts on the way from the callers through the queue to the workers. -/
def System.frames [Fintype Worker] [Fintype Caller] (cfg : Config T)
    (σ : System T Worker Caller) : Multiset (Frame T) :=
  ∑ w, ((σ.worker w).frames : Multiset (Frame T)) + σ.server.frames +
    ∑ c, ((σ.caller c).frames cfg : Multiset (Frame T))

theorem NotesFrames.moved [Fintype Worker] [Fintype Caller]
    (h : NotesFrames cfg σ evs σ' ns) (hn : .stopping ∉ evs) :
    σ.frames cfg + promised ns = delivered ns + σ'.frames cfg := by
  cases h with
  | transport h =>
    rw [System.frames, System.frames, h.frames]
    exact add_comm _ _
  | @worker s pc w h =>
    obtain ⟨hp, hd⟩ := promised_delivered ((σ.worker w).delivered evs)
    have hsum := sum_update_add σ.worker
      (fun pc => ((WorkerPc.frames pc : List (Frame T)) : Multiset (Frame T))) w pc
    have hmoved := congrArg (fun l : List (Frame T) => (l : Multiset (Frame T))) h.frames
    simp only [← Multiset.coe_add] at hmoved
    rw [hp, hd, Multiset.coe_nil, add_zero, System.frames, System.frames, exchange hsum hmoved,
      add_assoc]
  | @caller s pc c h =>
    obtain ⟨hp, hd⟩ := promised_promised (pc.frames cfg)
    have hsum := sum_update_add σ.caller
      (fun pc => ((CallerPc.frames cfg pc : List (Frame T)) : Multiset (Frame T))) c pc
    have hmoved := congrArg (fun l : List (Frame T) => (l : Multiset (Frame T))) h.frames
    simp only [← Multiset.coe_add, ← add_assoc] at hmoved
    have hpushed : (s.frames : Multiset (Frame T)) =
        σ.server.frames + (CallerPc.frames cfg (σ.caller c) : Multiset (Frame T)) :=
      add_right_cancel hmoved
    rw [hp, hd, Multiset.coe_nil, zero_add, System.frames, System.frames, hpushed]
    rw [add_assoc, ← hsum, add_comm _ ((σ.caller c).frames cfg : Multiset (Frame T)),
      ← add_assoc, ← add_assoc]
  | control h =>
    rw [System.frames, System.frames, h.frames hn]
    exact add_comm _ _

/-- A step sends what it delivers, or it answers a login to a completed session. -/
theorem NotesFrames.sent (h : NotesFrames cfg σ evs σ' ns) :
    evs.filterMap Event.frame = delivered ns ∨
      ∃ w hdl token cid str, σ.worker w = .opening hdl token ∧
        evs = [.result cid str, .sent hdl str (some cid), .closing hdl .sessionComplete] := by
  have unsent {o : Origin} (hshows : ∀ e ∈ evs, o.shows e = true)
      (ho : ∀ hdl msg owner, o.shows (.sent hdl msg owner : Event T) = false) :
      evs.filterMap Event.frame = [] := by
    rw [List.filterMap_eq_nil_iff]
    intro e he
    cases e with
    | sent hdl msg owner => exact (notMem_of_shows hshows (ho hdl msg owner) he).elim
    | _ => rfl
  cases h with
  | transport h => exact .inl (unsent h.shows fun _ _ _ => rfl)
  | @worker s pc w h =>
    rw [(promised_delivered _).2]
    generalize hpc : σ.worker w = before at h
    cases h with
    | lockedSession =>
      exact .inr ⟨w, _, _, _, _, hpc, rfl⟩
    | setupConnectionId =>
      refine .inl (List.filterMap_eq_nil_iff.2 fun e he => ?_)
      obtain ⟨old, -, rfl⟩ := List.mem_map.1 he
      rfl
    | _ => exact .inl rfl
  | caller c h =>
    rw [(promised_promised _).2]
    exact .inl (unsent h.shows fun _ _ _ => rfl)
  | control h => exact .inl (unsent h.shows fun _ _ _ => rfl)

section Steps

variable {σ : System T Unit Unit}

theorem traced_worker (h : ((baseServer cfg).restrict NoStop).Traced (NotesFrames cfg) tr σ)
    (hs : WorkerStep cfg (.inl ()) σ.server (σ.worker ()) evs s pc) (hn : .stopping ∉ evs) :
    ((baseServer cfg).restrict NoStop).Traced (NotesFrames cfg)
      (tr ++ ((σ.worker ()).delivered evs).map .delivered)
      { σ with server := s, worker := Function.update σ.worker () pc, log := σ.log ++ evs } :=
  h.step ⟨.worker () hs, hn⟩ (.worker () hs)

theorem traced_caller (h : ((baseServer cfg).restrict NoStop).Traced (NotesFrames cfg) tr σ)
    (hs : CallerStep cfg (.inr ()) σ.server (σ.caller ()) evs s pc) (hn : .stopping ∉ evs) :
    ((baseServer cfg).restrict NoStop).Traced (NotesFrames cfg)
      (tr ++ (pc.frames cfg).map .promised)
      { σ with server := s, caller := Function.update σ.caller () pc, log := σ.log ++ evs } :=
  h.step ⟨.caller () hs, hn⟩ (.caller () hs)

theorem traced_transport (h : ((baseServer cfg).restrict NoStop).Traced (NotesFrames cfg) tr σ)
    (hs : TransportStep σ.server evs s) (hn : .stopping ∉ evs) :
    ((baseServer cfg).restrict NoStop).Traced (NotesFrames cfg) (tr ++ [])
      { σ with server := s, log := σ.log ++ evs } :=
  h.step ⟨.transport hs, hn⟩ (.transport hs)

end Steps

def adaFrame (msg : String) : Frame natTraits := ⟨(5 : Nat), msg, some ⟨(1 : Nat), (7 : Nat)⟩⟩

theorem ada_texted : ∃ (σ : System natTraits Unit Unit) (tr : List (FrameNote natTraits)),
    ((baseServer natConfig).restrict NoStop).Traced (NotesFrames natConfig) tr σ ∧
      promised tr = [adaFrame "hi", adaFrame "bye"] ∧ delivered tr = [adaFrame "hi"] := by
  have h0 : ((baseServer natConfig).restrict NoStop).Traced (NotesFrames natConfig) []
      (System.start 0 : System natTraits Unit Unit) := .init ⟨0, rfl⟩
  have h1 := h0.step ⟨.control (.run rfl), by simp [NoStop]⟩ (.control (.run rfl))
  have h2 := traced_transport h1 (.onMessage (5 : Nat) "ada") (by simp)
  have h3 := traced_worker h2 (.enter rfl) (by simp)
  have h4 := traced_worker h3 (.pop rfl) (by simp)
  have h5 := traced_worker h4 (.messageUnbound rfl rfl) (by simp)
  have h6 := traced_worker h5 (.openSession ⟨0, 0⟩ rfl rfl rfl) (by simp)
  have h7 := traced_worker h6 .setupConnectionId (by simp)
  have h8 := traced_worker h7 .handleOpen (by simp)
  have h9 := traced_caller h8 (.sendMessage ⟨(1 : Nat), (7 : Nat)⟩ "hi" rfl) (by simp)
  have h10 := traced_caller h9 .pushMessage (by simp)
  have h11 := traced_worker h10 (.enter rfl) (by simp)
  have h12 := traced_worker h11 (.pop rfl) (by simp)
  have h13 := traced_worker h12 (.outMessage rfl) (by simp)
  have h14 := traced_caller h13 (.sendMessage ⟨(1 : Nat), (7 : Nat)⟩ "bye" rfl) (by simp)
  exact ⟨_, _, h14, rfl, rfl⟩

/-- Without `stop` and with any number of workers and callers: each text for which
`send_message` or `complete_session` has found a connection is on the way or has been sent to this
connection, once, and nothing else is sent but the answers to logins. -/
theorem frames_conserved [Fintype Worker] [Fintype Caller]
    (h : ((baseServer cfg).restrict NoStop).Traced (NotesFrames cfg) tr σ) :
    (promised tr : Multiset (Frame T)) = delivered tr + σ.frames cfg ∧
      ∀ evs σ' ns, NotesFrames cfg σ evs σ' ns →
        evs.filterMap Event.frame = delivered ns ∨
          ∃ w hdl token cid str, σ.worker w = .opening hdl token ∧
            evs = [.result cid str, .sent hdl str (some cid), .closing hdl .sessionComplete] := by
  constructor
  · apply h.conserved (fun σ => σ.frames cfg) (fun tr => (promised tr : Multiset (Frame T)))
      (fun tr => (delivered tr : Multiset (Frame T))) rfl rfl
    · intro tr ns
      rw [promised_append, Multiset.coe_add]
    · intro tr ns
      rw [delivered_append, Multiset.coe_add]
    · rintro σ ⟨t, rfl⟩
      simp only [System.frames, System.start, WorkerPc.frames, CallerPc.frames, Server.frames,
        List.filterMap_nil, Multiset.coe_nil, Finset.sum_const_zero, add_zero]
    · intro σ evs σ' ns hs hn
      exact hn.moved hs.2
  · intro evs σ' ns hn
    exact hn.sent

/-- One of two texts for Ada has been sent. -/
theorem frames_conserved_ada :
    ∃ (σ : System natTraits Unit Unit) (tr : List (FrameNote natTraits)),
      promised tr = [adaFrame "hi", adaFrame "bye"] ∧ delivered tr = [adaFrame "hi"] ∧
      (promised tr : Multiset (Frame natTraits)) = delivered tr + σ.frames natConfig := by
  obtain ⟨σ, tr, h, hp, hd⟩ := ada_texted
  exact ⟨σ, tr, hp, hd, (frames_conserved h).1⟩

/-- With one worker and one caller the texts are on the way in this order. -/
def System.line (cfg : Config T) (σ : System T Unit Unit) : List (Frame T) :=
  (σ.worker ()).frames ++ (σ.server.frames ++ (σ.caller ()).frames cfg)

theorem NotesFrames.moved_line {σ σ' : System T Unit Unit} (h : NotesFrames cfg σ evs σ' ns)
    (hn : .stopping ∉ evs) : σ.line cfg ++ promised ns = delivered ns ++ σ'.line cfg := by
  cases h with
  | transport h =>
    rw [System.line, System.line, h.frames]
    exact List.append_nil _
  | @worker s pc w h =>
    obtain ⟨hp, hd⟩ := promised_delivered ((σ.worker w).delivered evs)
    simp only [System.line, hp, hd, List.append_nil, Function.update_self]
    rw [← List.append_assoc, h.frames, List.append_assoc, List.append_assoc]
  | @caller s pc c h =>
    obtain ⟨hp, hd⟩ := promised_promised (pc.frames cfg)
    simp only [System.line, hp, hd, List.nil_append, Function.update_self, List.append_assoc]
    rw [h.frames]
  | control h =>
    rw [System.line, System.line, h.frames hn]
    exact List.append_nil _

/-- With one worker and one caller the texts are sent in the order of the calls. -/
theorem frames_in_order {σ : System T Unit Unit}
    (h : ((baseServer cfg).restrict NoStop).Traced (NotesFrames cfg) tr σ) :
    promised tr = delivered tr ++ σ.line cfg := by
  apply h.conserved (A := FreeAddMonoid (Frame T)) (fun σ => .ofList (σ.line cfg))
    (fun tr => .ofList (promised tr)) (fun tr => .ofList (delivered tr)) rfl rfl
  · intro tr ns
    exact promised_append tr ns
  · intro tr ns
    exact delivered_append tr ns
  · rintro σ ⟨t, rfl⟩
    rfl
  · intro σ evs σ' ns hs hn
    exact hn.moved_line hs.2

/-- The second text waits behind the first one. -/
theorem frames_in_order_ada :
    ∃ (σ : System natTraits Unit Unit) (tr : List (FrameNote natTraits)),
      promised tr = [adaFrame "hi", adaFrame "bye"] ∧ delivered tr = [adaFrame "hi"] ∧
      σ.line natConfig = [adaFrame "bye"] := by
  obtain ⟨σ, tr, h, hp, hd⟩ := ada_texted
  have hline := frames_in_order h
  rw [hp, hd] at hline
  exact ⟨σ, tr, hp, hd, (List.cons.inj hline).2.symm⟩

end Run

end WebGameServer
