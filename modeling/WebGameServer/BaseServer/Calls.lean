import WebGameServer.BaseServer.Bindings

namespace WebGameServer
set_option autoImplicit true

/-- A call of `open_session` or, with an id, of `m_handle_message`. -/
structure Call (T : Traits) where
  hdl : T.Hdl
  msg : String
  id : Option (CombinedId T)

section Local

variable {T : Traits} {Thread : Type} {cfg : Config T} {me : Thread} {s s' : Server T Thread}
  {pc pc' : WorkerPc T} {log evs : List (Event T)} {hdl : T.Hdl}

/-- The handle of the message that the thread has popped and neither passed to
`m_handle_message` nor bound or refused as a login. -/
def WorkerPc.holds : WorkerPc T → Option T.Hdl
  | .handling a => if a.type = .inMessage then some a.hdl else none
  | .messaging hdl _ _ | .opening hdl _ | .binding hdl _ _ => some hdl
  | _ => none

def Action.message (hdl : T.Hdl) (a : Action T) : Option String :=
  if a.type = .inMessage ∧ a.hdl = hdl then some a.msg else none

/-- The message of the handle that the thread has popped and passed to no call yet. -/
def WorkerPc.message (hdl : T.Hdl) : WorkerPc T → Option String
  | .handling a => a.message hdl
  | .messaging h _ msg => if h = hdl then some msg else none
  | _ => none

/-- The handle for which the thread is in `open_session`, before `setup_connection_id`. -/
def WorkerPc.loggingIn : WorkerPc T → Option T.Hdl
  | .opening hdl _ | .binding hdl _ _ => some hdl
  | _ => none

/-- The call that a step between the two program points makes. -/
def WorkerPc.call : WorkerPc T → WorkerPc T → Option (Call T)
  | .handling _, .opening hdl token => some ⟨hdl, token, none⟩
  | .messaging hdl cid msg, .testing => some ⟨hdl, msg, some cid⟩
  | _, _ => none

def Event.message (hdl : T.Hdl) : Event T → Option String
  | .received h msg => if h = hdl then some msg else none
  | _ => none

/-- The messages of the handle in the order of the calls of `on_message`. -/
def receivedOn (hdl : T.Hdl) (log : List (Event T)) : List String :=
  log.filterMap (Event.message hdl)

def Server.queuedOn (hdl : T.Hdl) (s : Server T Thread) : List String :=
  s.actions.filterMap (Action.message hdl)

def callsOn (hdl : T.Hdl) (calls : List (Call T)) : List (Call T) :=
  calls.filter fun call => call.hdl = hdl

/-- The connection is not closed by its client, replaced by a duplicate login or completed. -/
structure Kept (log : List (Event T)) (hdl : T.Hdl) : Prop where
  unclosed : .closed hdl ∉ log
  unreplaced : .closing hdl .duplicateConnection ∉ log
  uncompleted : .closing hdl .sessionComplete ∉ log

end Local

section Observed

variable {T : Traits} {Worker Caller : Type} [DecidableEq Worker] [DecidableEq Caller]
  {cfg : Config T}

/-- A worker that pops a message goes to the end of the line. -/
def nextOrder (w : Worker) (pc pc' : WorkerPc T) (order : List Worker) : List Worker :=
  if pc.holds.isNone ∧ pc'.holds.isSome then order.filter (· ≠ w) ++ [w] else order

/-- The worker that holds the message of the handle popped first. -/
def oldest (hdl : T.Hdl) (pcs : Worker → WorkerPc T) (order : List Worker) : Option Worker :=
  order.find? fun w => (pcs w).holds = some hdl

/-- The messages of the handle that are popped and passed to no call yet. -/
def heldOn (hdl : T.Hdl) (pcs : Worker → WorkerPc T) (order : List Worker) : List String :=
  order.filterMap fun w => (pcs w).message hdl

/-- The server with two ghost fields: the workers in the order in which they have last popped a
message, and the calls so far. -/
structure Observed (T : Traits) (Worker Caller : Type) where
  system : System T Worker Caller
  order : List Worker
  calls : List (Call T)

/-- The steps of the server, each with what it adds to the ghost fields. -/
inductive ObservedStep (cfg : Config T) : Observed T Worker Caller → List (Event T) →
    Observed T Worker Caller → Prop where
  | transport (h : TransportStep o.system.server evs s) :
      ObservedStep cfg o evs
        { o with system := { o.system with server := s, log := o.system.log ++ evs } }
  | worker (w : Worker)
      (h : WorkerStep cfg (.inl w) o.system.server (o.system.worker w) evs s pc) :
      ObservedStep cfg o evs
        { system :=
            { o.system with
              server := s
              worker := Function.update o.system.worker w pc
              log := o.system.log ++ evs }
          order := nextOrder w (o.system.worker w) pc o.order
          calls := o.calls ++ ((o.system.worker w).call pc).toList }
  | caller (c : Caller)
      (h : CallerStep cfg (.inr c) o.system.server (o.system.caller c) evs s pc) :
      ObservedStep cfg o evs
        { o with
          system :=
            { o.system with
              server := s
              caller := Function.update o.system.caller c pc
              log := o.system.log ++ evs } }
  | control (h : ControlStep o.system.server o.system.control evs s pc) :
      ObservedStep cfg o evs
        { o with
          system := { o.system with server := s, control := pc, log := o.system.log ++ evs } }

def observed (cfg : Config T) : LTS (Observed T Worker Caller) (List (Event T)) where
  init o := ∃ lastUpdate, o = ⟨.start lastUpdate, [], []⟩
  step := ObservedStep cfg

theorem ObservedStep.step {o o' : Observed T Worker Caller} (h : ObservedStep cfg o evs o') :
    Step cfg o.system evs o'.system := by
  cases h with
  | transport h => exact .transport h
  | worker w h => exact .worker w h
  | caller c h => exact .caller c h
  | control h => exact .control h

theorem Step.observed {o : Observed T Worker Caller} (h : Step cfg o.system evs σ) :
    ∃ o', ObservedStep cfg o evs o' ∧ o'.system = σ := by
  cases h with
  | transport h => exact ⟨_, .transport h, rfl⟩
  | worker w h => exact ⟨_, .worker w h, rfl⟩
  | caller c h => exact ⟨_, .caller c h, rfl⟩
  | control h => exact ⟨_, .control h, rfl⟩

theorem observed_reachable_iff {σ : System T Worker Caller} :
    (∃ o, (observed cfg).Reachable o ∧ o.system = σ) ↔ (baseServer cfg).Reachable σ := by
  constructor
  · rintro ⟨o, h, rfl⟩
    apply LTS.Reachable.project _ _ h
    · intro o hinit
      obtain ⟨t, rfl⟩ := hinit
      exact ⟨t, rfl⟩
    · intro o evs o' hr hs
      exact .inr ⟨evs, hs.step⟩
  · intro h
    apply LTS.Reachable.lift _ _ h
    · intro σ hinit
      obtain ⟨t, rfl⟩ := hinit
      exact ⟨_, ⟨t, rfl⟩, rfl⟩
    · intro o evs σ' hs
      exact ⟨evs, hs.observed⟩

end Observed

end WebGameServer
