import WebGameServer.Library.Transition

namespace WebGameServer
set_option autoImplicit true

/-- What the members of `client` ask of the connection and of the WebSocket endpoint. -/
inductive ClientRequest where
  | send (msg : String)
  | close (reason : String)
  | reset
  deriving DecidableEq

/-- The members of `client`, with the URI of the connection that `m_connection` points to. -/
structure Client where
  isRunning : Bool
  hasFailed : Bool
  connection : Option String
  jwt : String

namespace Client

def new : Client where
  isRunning := false
  hasFailed := false
  connection := none
  jwt := ""

/-- `connect` when `get_connection` reports an error. -/
def rejectUri (c : Client) (jwt : String) : Client :=
  { c with connection := none, jwt := jwt }

/-- `connect` up to the call of `m_client.run()`. -/
def startRun (c : Client) (uri jwt : String) : Client :=
  { c with isRunning := true, hasFailed := false, connection := some uri, jwt := jwt }

/-- The clause of `connect` that catches exceptions. -/
def fail (c : Client) : Client :=
  { c with isRunning := false, hasFailed := true }

/-- An exception of `connect` before the flag is set. -/
def failConnect (c : Client) (uri jwt : String) : Client :=
  { c with connection := some uri, jwt := jwt }.fail

def onClose (c : Client) : Client := { c with isRunning := false }

/-- An exception that `close` throws is caught, so that only the flag decides. -/
def disconnect (c : Client) : Except String (List ClientRequest) :=
  if c.isRunning then .ok [.close "client closed connection"]
  else .error "disconnect called on stopped client"

def reset (c : Client) : Except String (List ClientRequest) := do
  let requests ← if c.isRunning then c.disconnect else .ok []
  return requests ++ [.reset]

def send (c : Client) (msg : String) : Except String (List ClientRequest) :=
  if c.isRunning then .ok [.send msg]
  else .error ("send called on stopped client with message: " ++ msg)

end Client

/-- Where the call of `connect` is. -/
inductive ClientPc where
  -- Outside of `connect`.
  | idle
  -- In `m_client.run()`, before the handshake is over.
  | connecting
  -- In `m_client.run()`, after the open handler.
  | opened
  -- In `m_client.run()`, after the close handler.
  | closed
  -- In `m_client.run()`, after a failed handshake.
  | failed
  deriving DecidableEq

/-- The client with the thread that is in `connect`. -/
structure ClientSystem where
  client : Client
  pc : ClientPc

inductive ClientEvent where
  | connect (uri jwt : String)
  | refused (error : String)
  | invalidUri (uri : String)
  | opened (requests : List ClientRequest)
  | message (msg : String)
  | closed
  | handshakeFailed
  | threw
  | returned
  | called (result : Except String (List ClientRequest))

/-- The calls of `connect`, one after the other, with what the transport makes of them, and the
other calls, from any thread or handler. -/
inductive ClientStep : ClientSystem → ClientEvent → ClientSystem → Prop where
  | refused (uri jwt : String) : σ.client.isRunning = true →
      ClientStep σ (.refused "connect called on running client") σ
  | invalidUri (uri jwt : String) : σ.pc = .idle → σ.client.isRunning = false →
      ClientStep σ (.invalidUri uri) { σ with client := σ.client.rejectUri jwt }
  | connectThrows (uri jwt : String) : σ.pc = .idle → σ.client.isRunning = false →
      ClientStep σ .threw { σ with client := σ.client.failConnect uri jwt }
  | connect (uri jwt : String) : σ.pc = .idle → σ.client.isRunning = false →
      ClientStep σ (.connect uri jwt) ⟨σ.client.startRun uri jwt, .connecting⟩
  | onOpen : σ.pc = .connecting → σ.client.send σ.client.jwt = .ok requests →
      ClientStep σ (.opened requests) { σ with pc := .opened }
  -- The exception of `send` leaves the handler and `m_client.run()`.
  | onOpenThrows : σ.pc = .connecting → σ.client.send σ.client.jwt = .error error →
      ClientStep σ .threw ⟨σ.client.fail, .idle⟩
  | onMessage (msg : String) : σ.pc = .opened → ClientStep σ (.message msg) σ
  | onClose : σ.pc = .opened → ClientStep σ .closed ⟨σ.client.onClose, .closed⟩
  -- Only a fail handler would be called, and none is installed.
  | handshakeFails : σ.pc = .connecting →
      ClientStep σ .handshakeFailed { σ with pc := .failed }
  | runThrows : σ.pc ≠ .idle → ClientStep σ .threw ⟨σ.client.fail, .idle⟩
  | returns : σ.pc = .closed → ClientStep σ .returned { σ with pc := .idle }
  | returnsFailed : σ.pc = .failed → ClientStep σ .returned { σ with pc := .idle }
  | disconnect : ClientStep σ (.called σ.client.disconnect) σ
  | reset : ClientStep σ (.called σ.client.reset) σ
  | send (msg : String) : ClientStep σ (.called (σ.client.send msg)) σ

def clientSystem : LTS ClientSystem ClientEvent where
  init σ := σ = ⟨.new, .idle⟩
  step := ClientStep

/-- `m_client.run()` does not return after a failed handshake. -/
def HandshakesSucceed (σ : ClientSystem) (e : ClientEvent) (_ : ClientSystem) : Prop :=
  σ.pc = .failed → e ≠ .returned

/-- The flag is false outside of `connect` and true from the open handler to the close handler. -/
def FlagHolds (σ : ClientSystem) : Prop :=
  (σ.pc = .idle → σ.client.isRunning = false) ∧ (σ.pc = .opened → σ.client.isRunning = true)

/-- The value of the flag at every point of `connect`. -/
def ClientPc.flag : ClientPc → Bool
  | .idle | .closed => false
  | .connecting | .opened | .failed => true

theorem ClientStep.flag (h : ClientStep σ e σ') (hs : σ.client.isRunning = σ.pc.flag)
    (hc : HandshakesSucceed σ e σ') : σ'.client.isRunning = σ'.pc.flag := by
  cases h with
  | refused uri jwt hr => exact hs
  | invalidUri uri jwt hp hr => exact hs
  | connectThrows uri jwt hp hr => exact (congrArg ClientPc.flag hp).symm
  | connect uri jwt hp hr => rfl
  | onOpen hp hsend | handshakeFails hp =>
    rw [hp] at hs
    exact hs
  | onOpenThrows hp hsend | runThrows hp => rfl
  | onMessage msg hp | disconnect | reset | send msg => exact hs
  | onClose hp => rfl
  | returns hp =>
    rw [hp] at hs
    exact hs
  | returnsFailed hp => exact (hc hp rfl).elim

theorem flag_invariant : (clientSystem.restrict HandshakesSucceed).Invariant
    fun σ => σ.client.isRunning = σ.pc.flag where
  init := by
    rintro σ rfl
    rfl
  step _ hs h := h.1.flag hs h.2

theorem flagHolds_of_flag (h : σ.client.isRunning = σ.pc.flag) : FlagHolds σ :=
  ⟨fun hp => h.trans (congrArg ClientPc.flag hp), fun hp => h.trans (congrArg ClientPc.flag hp)⟩

theorem ClientStep.not_flagHolds (h : ClientStep σ e σ')
    (hs : σ.client.isRunning = σ.pc.flag) (hp : σ.pc = .failed) (he : e = .returned) :
    ¬ FlagHolds σ' := by
  have hr : σ.client.isRunning = true := hs.trans (congrArg ClientPc.flag hp)
  intro hf
  cases h with
  | returns hp' => cases hp.symm.trans hp'
  | returnsFailed hp' => cases hr.symm.trans (hf.1 rfl)
  | _ => cases he

theorem accepts_of_stopped (hp : σ.pc = .idle) (hr : σ.client.isRunning = false) :
    σ.client.reset = .ok [.reset] ∧
      ∀ uri jwt, ∃ σ', ClientStep σ (.connect uri jwt) σ' := by
  constructor
  · simp only [Client.reset, hr, Bool.false_eq_true, ↓reduceIte]
    rfl
  · exact fun uri jwt => ⟨_, .connect uri jwt hp hr⟩

/-- As long as `connect` does not return after a failed handshake, the flag is false whenever no
call of `connect` is executing, so that the next calls are accepted, and true from the open
handler to the close handler. A step that breaks the condition breaks the flag. -/
theorem running_while_connected (h : (clientSystem.restrict HandshakesSucceed).Reachable σ) :
    FlagHolds σ ∧
    (σ.pc = .idle → σ.client.reset = .ok [.reset] ∧
      ∀ uri jwt, ∃ σ', clientSystem.step σ (.connect uri jwt) σ') ∧
    ∀ e σ', clientSystem.step σ e σ' → (HandshakesSucceed σ e σ' ↔ FlagHolds σ') := by
  have hs := flag_invariant.reachable h
  refine ⟨flagHolds_of_flag hs, fun hp => ?_, fun e σ' hstep => ?_⟩
  · exact accepts_of_stopped hp ((flagHolds_of_flag hs).1 hp)
  · constructor
    · exact fun hc => flagHolds_of_flag (hstep.flag hs hc)
    · exact fun hf hp he => hstep.not_flagHolds hs hp he hf

/-- A connection that is opened, gets a message and is closed. -/
theorem running_while_connected_once : ∃ σ : ClientSystem,
    σ.client.connection = some "ws://localhost" ∧ FlagHolds σ := by
  have h0 : (clientSystem.restrict HandshakesSucceed).Reachable ⟨.new, .idle⟩ := .init rfl
  have h1 := h0.step ⟨.connect "ws://localhost" "token" rfl rfl, fun hp => by cases hp⟩
  have h2 := h1.step ⟨.onOpen rfl rfl, fun hp => by cases hp⟩
  have h3 := h2.step ⟨.onMessage "hello" rfl, fun hp => by cases hp⟩
  have h4 := h3.step ⟨.onClose rfl, fun hp => by cases hp⟩
  have h5 := h4.step ⟨.returns rfl, fun hp => by cases hp⟩
  exact ⟨_, rfl, (running_while_connected h5).1⟩

/-- The handshake fails: `connect` returns, and the next `connect` is refused. -/
theorem running_after_failed_handshake :
    ∃ σ, clientSystem.Reachable σ ∧ σ.pc = .idle ∧ σ.client.isRunning = true ∧
      σ.client.hasFailed = false ∧
      ∀ uri jwt σ', ¬ clientSystem.step σ (.connect uri jwt) σ' := by
  have h0 : clientSystem.Reachable ⟨.new, .idle⟩ := .init rfl
  have h1 := h0.step (.connect "ws://localhost" "token" rfl rfl)
  have h2 := h1.step (.handshakeFails rfl)
  have h3 := h2.step (.returnsFailed rfl)
  refine ⟨_, h3, rfl, rfl, rfl, fun uri jwt σ' h => ?_⟩
  cases h with
  | connect _ _ hp hr => cases hr

end WebGameServer
